import Mathlib.Data.List.ReduceOption
import RemoteObjects.Proofs.Bus.Recorded
import RemoteObjects.Service

namespace RemoteObjects

variable {η : Type}

/-- The request in the payload, whatever the tag of the frame. -/
def Frame.request? (frame : Frame) : Option Request :=
  (Request.decodeAny frame.payload).toOption

namespace Execution

/-- The host after the requests were executed one after the other. -/
def after (call : Execution η) (host : η) (requests : List Request) : η :=
  requests.foldl (fun host request => (call host request).state) host

/-- The requests with the replies that they got, in the order of their execution. -/
def replies (call : Execution η) : η → List Request → List (Request × Option Reply)
  | _, [] => []
  | host, request :: requests =>
      (request, (call host request).result) :: call.replies (call host request).state requests

@[simp] theorem after_nil (call : Execution η) (host : η) : call.after host [] = host := rfl

@[simp] theorem after_cons (call : Execution η) (host : η) (request : Request)
    (requests : List Request) :
    call.after host (request :: requests) = call.after (call host request).state requests := rfl

theorem after_append (call : Execution η) (host : η) (first second : List Request) :
    call.after host (first ++ second) = call.after (call.after host first) second :=
  List.foldl_append

theorem after_concat (call : Execution η) (host : η) (requests : List Request)
    (request : Request) :
    call.after host (requests ++ [request]) =
      (call (call.after host requests) request).state := by
  rw [after_append]
  rfl

theorem getElem?_replies (call : Execution η) (host : η) (requests : List Request) (place : Nat) :
    (call.replies host requests)[place]? =
      requests[place]?.map fun request =>
        (request, (call (call.after host (requests.take place)) request).result) := by
  induction requests generalizing host place with
  | nil => rfl
  | cons request requests ih =>
      cases place with
      | zero => rfl
      | succ place => exact ih (call host request).state place

theorem replies_take (call : Execution η) (host : η) (requests : List Request) (count : Nat) :
    call.replies host (requests.take count) = (call.replies host requests).take count := by
  induction requests generalizing host count with
  | nil => simp [replies]
  | cons request requests ih =>
      cases count with
      | zero => rfl
      | succ count => exact congrArg _ (ih (call host request).state count)

theorem map_fst_replies (call : Execution η) (host : η) (requests : List Request) :
    (call.replies host requests).map Prod.fst = requests := by
  induction requests generalizing host with
  | nil => rfl
  | cons request requests ih => exact congrArg _ (ih (call host request).state)

theorem countP_replies (call : Execution η) (host : η) (requests : List Request)
    (wanted : Request → Bool) :
    (call.replies host requests).countP (fun entry => wanted entry.1) = requests.countP wanted := by
  have count := List.countP_map (p := wanted) (f := Prod.fst) (l := call.replies host requests)
  rw [map_fst_replies] at count
  exact count.symm

/-- An execution replies exactly to the requests that are not one-way. -/
def Responsive (call : Execution η) : Prop :=
  ∀ host request, (call host request).result.isSome = !request.isOneWay

theorem Responsive.exists_reply {call : Execution η} (responsive : call.Responsive) (host : η)
    {request : Request} (awaits : request.isOneWay = false) :
    ∃ reply, (call host request).result = some reply := by
  have due := responsive host request
  rw [awaits] at due
  exact Option.isSome_iff_exists.mp due

theorem Responsive.replies {call : Execution η} (responsive : call.Responsive) (host : η)
    (requests : List Request) :
    ∀ entry ∈ call.replies host requests, entry.2.isSome = !entry.1.isOneWay := by
  induction requests generalizing host with
  | nil => simp [Execution.replies]
  | cons request requests ih =>
      rw [Execution.replies, List.forall_mem_cons]
      exact ⟨responsive host request, ih (call host request).state⟩

/-- A malformed request is answered by the same rule as a good one. -/
theorem Responsive.guarded {execute : Execution η} (responsive : execute.Responsive) :
    execute.guarded.Responsive := by
  intro host request
  unfold Execution.guarded
  split
  · exact responsive host request
  · simp only [refuseMalformed]
    cases request.isOneWay <;> rfl

end Execution

theorem Host.execute_responsive {σ : Type} (catalog : Catalog σ) :
    Execution.Responsive (Host.execute catalog) := by
  intro host request
  cases request with
  | construct handle className types arguments => rfl
  | invoke handle className method types arguments => rfl
  | field handle className name value mode scope => cases mode <;> rfl
  | finalize handle className => rfl

namespace Service

/-- The frames in which requests are answered, for those that get a reply. -/
def replyFrames (replies : List (Request × Option Reply)) : List Frame :=
  replies.filterMap fun (request, reply) =>
    reply.map fun content => { tag := request.responseTag, payload := content.encode }

/-- The responses under the tag of a request are those to the requests under its tag. -/
theorem filter_replyFrames (replies : List (Request × Option Reply)) (request : Request) :
    (replyFrames replies).filter (fun frame => frame.tag = request.responseTag) =
      replyFrames (replies.filter fun entry => entry.1.tag = request.tag) := by
  induction replies with
  | nil => rfl
  | cons entry rest ih =>
      obtain ⟨other, reply⟩ := entry
      have same : other.responseTag = request.responseTag ↔ other.tag = request.tag :=
        ⟨Tag.response_injective other.isRequest_tag request.isRequest_tag, congrArg Tag.response⟩
      cases reply with
      | none => by_cases alike : other.tag = request.tag <;> simpa [replyFrames, alike] using ih
      | some content =>
          by_cases alike : other.tag = request.tag <;>
            simpa [replyFrames, same, alike] using ih

/-- Where every request is replied to, there is one frame for each. -/
theorem replyFrames_of_replied {replies : List (Request × Option Reply)}
    (replied : ∀ entry ∈ replies, entry.2.isSome = true) :
    (replyFrames replies).length = replies.length ∧
      ∀ (place : Nat) (frame : Frame), (replyFrames replies)[place]? = some frame →
        ∃ request content, replies[place]? = some (request, some content) ∧
          frame = replyFrame request content := by
  induction replies with
  | nil => simp [replyFrames]
  | cons entry rest ih =>
      obtain ⟨request, reply⟩ := entry
      rw [List.forall_mem_cons] at replied
      obtain ⟨content, rfl⟩ := Option.isSome_iff_exists.mp replied.1
      obtain ⟨count, places⟩ := ih replied.2
      have split : replyFrames ((request, some content) :: rest) =
          replyFrame request content :: replyFrames rest := rfl
      rw [split]
      refine ⟨by simp [count], fun place frame found => ?_⟩
      cases place with
      | zero =>
          cases found
          exact ⟨request, content, rfl, rfl⟩
      | succ place => exact places place frame found

theorem replyFrames_of_unreplied {replies : List (Request × Option Reply)}
    (unreplied : ∀ entry ∈ replies, entry.2.isSome = false) : replyFrames replies = [] := by
  refine List.filterMap_eq_nil_iff.mpr fun entry member => ?_
  simpa using unreplied entry member

/-- The host after the frames were handled one after the other. -/
def hostAfter (execute : Execution η) (host : η) (frames : List Frame) : η :=
  frames.foldl (fun host frame => (handle execute host frame).state) host

/-- The reply frame that each frame gives rise to, if any, in order. -/
def answers (execute : Execution η) : η → List Frame → List (Option Frame)
  | _, [] => []
  | host, frame :: frames =>
      (handle execute host frame).result ::
        answers execute (handle execute host frame).state frames

@[simp] theorem hostAfter_nil (execute : Execution η) (host : η) :
    hostAfter execute host [] = host := rfl

@[simp] theorem hostAfter_cons (execute : Execution η) (host : η) (frame : Frame)
    (frames : List Frame) :
    hostAfter execute host (frame :: frames) =
      hostAfter execute (handle execute host frame).state frames := rfl

theorem hostAfter_append (execute : Execution η) (host : η) (first second : List Frame) :
    hostAfter execute host (first ++ second) =
      hostAfter execute (hostAfter execute host first) second :=
  List.foldl_append

theorem answers_append (execute : Execution η) (host : η) (first second : List Frame) :
    answers execute host (first ++ second) =
      answers execute host first ++ answers execute (hostAfter execute host first) second := by
  induction first generalizing host with
  | nil => rfl
  | cons frame first ih => simp only [List.cons_append, answers, ih, hostAfter_cons]

/-- One more frame adds at most one answer. -/
theorem answers_concat (execute : Execution η) (host : η) (frames : List Frame) (frame : Frame) :
    answers execute host (frames ++ [frame]) =
      answers execute host frames ++
        [(handle execute (hostAfter execute host frames) frame).result] := by
  rw [answers_append]
  rfl

/-- The service and the guarded execution decide in the same way about the shape of a request, so
a frame that holds a request does to the host what the request does. -/
theorem handle_request (execute : Execution η) (host : η) {frame : Frame} {request : Request}
    (decodes : frame.request? = some request) :
    (handle execute host frame).state = (execute.guarded host request).state ∧
      (handle execute host frame).result =
        (execute.guarded host request).result.map (replyFrame request) := by
  have payload : Request.decodeAny frame.payload = .ok request := by
    unfold Frame.request? at decodes
    cases decoded : Request.decodeAny frame.payload with
    | error fault => simp [decoded, Except.toOption] at decodes
    | ok found => simpa [decoded, Except.toOption] using decodes
  unfold handle Execution.guarded
  rw [payload]
  dsimp only
  cases request.checkShape <;> exact ⟨rfl, rfl⟩

/-- A frame without a request in it changes nothing and is not answered. -/
theorem handle_undecodable (execute : Execution η) (host : η) {frame : Frame}
    (undecodable : frame.request? = none) :
    (handle execute host frame).state = host ∧ (handle execute host frame).result = none := by
  unfold Frame.request? at undecodable
  unfold handle
  cases decoded : Request.decodeAny frame.payload with
  | error fault => exact ⟨rfl, rfl⟩
  | ok found => simp [decoded, Except.toOption] at undecodable

/-- Handling frames is executing the requests in them. -/
theorem hostAfter_eq_after (execute : Execution η) (host : η) (frames : List Frame) :
    hostAfter execute host frames =
      execute.guarded.after host (frames.filterMap Frame.request?) := by
  induction frames generalizing host with
  | nil => rfl
  | cons frame frames ih =>
      rw [hostAfter_cons, ih]
      cases decodes : frame.request? with
      | none =>
          rw [List.filterMap_cons_none decodes, (handle_undecodable execute host decodes).1]
      | some request =>
          rw [List.filterMap_cons_some decodes, (handle_request execute host decodes).1,
            Execution.after_cons]

theorem answers_eq_replyFrames (execute : Execution η) (host : η) (frames : List Frame) :
    (answers execute host frames).reduceOption =
      replyFrames (execute.guarded.replies host (frames.filterMap Frame.request?)) := by
  induction frames generalizing host with
  | nil => rfl
  | cons frame frames ih =>
      cases decodes : frame.request? with
      | none =>
          obtain ⟨state, result⟩ := handle_undecodable execute host decodes
          rw [List.filterMap_cons_none decodes, answers, state, result, ← ih]
          rfl
      | some request =>
          obtain ⟨state, result⟩ := handle_request execute host decodes
          rw [List.filterMap_cons_some decodes, answers, state, result, Execution.replies,
            replyFrames, List.filterMap_cons, ← replyFrames, ← ih]
          cases (execute.guarded host request).result <;> rfl

/-- A service answers under response tags only. -/
theorem isRequest_of_handle {execute : Execution η} {host : η} {frame reply : Frame}
    (answered : (handle execute host frame).result = some reply) :
    reply.tag.isRequest = false := by
  cases decodes : frame.request? with
  | none => simp [(handle_undecodable execute host decodes).2] at answered
  | some request =>
      rw [(handle_request execute host decodes).2, Option.map_eq_some_iff] at answered
      obtain ⟨content, _, rfl⟩ := answered
      exact Request.isRequest_responseTag request

/-- The recorded bus after its first frame was taken and the reply, if any, was delivered. -/
def afterServing (recorded : Recorded Bus) (frame : Frame) (rest : List Frame) :
    Option Frame → Recorded Bus
  | none => recorded.takeFirst frame rest
  | some reply =>
      { recorded.takeFirst frame rest with
        medium := (recorded.takeFirst frame rest).medium.deliver reply
        published := recorded.published ++ [reply] }

section AfterServing

variable (recorded : Recorded Bus) (frame : Frame) (rest : List Frame) (reply : Option Frame)

@[simp] theorem afterServing_closed :
    (afterServing recorded frame rest reply).medium.closed = recorded.medium.closed := by
  cases reply <;> rfl

@[simp] theorem afterServing_queue :
    (afterServing recorded frame rest reply).medium.queue = rest := by
  cases reply <;> rfl

@[simp] theorem afterServing_line :
    (afterServing recorded frame rest reply).medium.line = [] := by
  cases reply <;> rfl

@[simp] theorem afterServing_taken :
    (afterServing recorded frame rest reply).taken = recorded.taken ++ [frame] := by
  cases reply <;> rfl

@[simp] theorem afterServing_published :
    (afterServing recorded frame rest reply).published = recorded.published ++ reply.toList := by
  cases reply with
  | none => exact (List.append_nil recorded.published).symm
  | some content => rfl

end AfterServing

section Attending

variable {recorded : Recorded Bus} {channel : Channel} (execute : Execution η) (look : Bus.Look)
  (host : η)

/-- A queued frame is handled completely in one look, and the channel is given back. -/
theorem attend_queued (isOpen : recorded.medium.closed = false)
    (reader : channel.filter = .requests)
    (alone : Bus.joinLine recorded.medium.line channel.id = [channel.id])
    {frame : Frame} {rest : List Frame} (queued : recorded.medium.queue = frame :: rest) :
    (attend execute look recorded host channel).state =
        (afterServing recorded frame rest (handle execute host frame).result,
          (handle execute host frame).state) ∧
      (attend execute look recorded host channel).result = .served := by
  have polled := Recorded.poll_queued isOpen reader alone queued look
  cases answered : (handle execute host frame).result with
  | none =>
      have detached : Medium.detach (recorded.takeFirst frame rest) channel = _ :=
        Recorded.detach_of_line_nil reader rfl
      simp [attend, polled, answered, detached, afterServing]
  | some reply =>
      have delivered := Bus.publish_response
        (show (recorded.takeFirst frame rest).medium.closed = false from isOpen)
        (isRequest_of_handle answered)
      obtain ⟨state, result⟩ := Recorded.publish_bus _ delivered.2
      rw [delivered.1] at state
      have detached : Medium.detach (afterServing recorded frame rest (some reply)) channel = _ :=
        Recorded.detach_of_line_nil reader rfl
      have published : (Medium.publish (recorded.takeFirst frame rest) reply).state =
          afterServing recorded frame rest (some reply) := state
      simp [attend, polled, answered, published, result, detached]

/-- With an empty queue the service stands in line and waits. -/
theorem attend_idle (isOpen : recorded.medium.closed = false)
    (reader : channel.filter = .requests)
    (alone : Bus.joinLine recorded.medium.line channel.id = [channel.id])
    (queued : recorded.medium.queue = []) :
    (attend execute look recorded host channel).state = (recorded.lineUp channel, host) ∧
      (attend execute look recorded host channel).result = .waiting channel := by
  have polled := Recorded.poll_idle isOpen reader alone queued look
  simp [attend, polled]

/-- A service without a channel opens one and looks through it. -/
theorem serveOne_open (isOpen : recorded.medium.closed = false) :
    serveOne execute recorded host =
      attend execute .first recorded.issueId host
        { id := recorded.medium.nextId, filter := .requests } := by
  simp [serveOne, recorded.attach_requests isOpen]

end Attending

end Service

end RemoteObjects
