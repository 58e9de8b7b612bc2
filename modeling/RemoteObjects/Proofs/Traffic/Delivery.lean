import RemoteObjects.Proofs.Traffic.Tracking

namespace RemoteObjects

/-- A request is executed on one of several hosts and leaves the others alone. -/
def Execution.on {κ : Type} [DecidableEq κ] {η : κ → Type} (name : κ) (execute : Execution (η name)) :
    Execution (∀ name, η name) := fun hosts request =>
  let step := execute (hosts name) request
  { state := Function.update hosts name step.state, result := step.result, events := step.events }

theorem Execution.Responsive.on {κ : Type} [DecidableEq κ] {η : κ → Type} {name : κ}
    {execute : Execution (η name)} (responsive : execute.Responsive) :
    (Execution.on name execute).Responsive := fun hosts request =>
  responsive (hosts name) request

namespace Traffic

variable {ι η : Type} [DecidableEq ι] {executions : ι → Execution η} {traffic next : Traffic ι η}

/-- Some service took the frame through this channel and has not answered it yet. -/
def InHands (traffic : Traffic ι η) (channel : Channel) (frame : Frame) : Prop :=
  ∃ name stage, traffic.services.find? name = some stage ∧ stage.channel? = some channel ∧
    stage.frame? = some frame

/-- A request that was taken is in the hands of the service that took it until the client has a
response. -/
def Delivering (traffic : Traffic ι η) : Prop :=
  ∀ id journey, traffic.journeys.find? id = some journey → journey.stage.hasSent = true →
    journey.request.isOneWay = false → journey.position < traffic.board.taken.length →
      (∃ channel, traffic.board.taken[journey.position]? = some (channel, journey.request.frame) ∧
        traffic.InHands channel journey.request.frame) ∨
        journey.heard < (traffic.board.sentUnder journey.request.responseTag).length

/-- A journey whose request was sent had sent it before the move, or sends it now. -/
theorem Owning.sent_before (owning : traffic.Owning) (executions : ι → Execution η) {move : Move ι}
    {id : Nat} {journey : Journey}
    (travels : (traffic.after executions move).journeys.find? id = some journey)
    (sent : journey.stage.hasSent = true) :
    (∃ before, traffic.journeys.find? id = some before ∧ before.stage.hasSent = true ∧
        before.request = journey.request ∧ before.heard = journey.heard ∧
        before.position = journey.position) ∨
      journey.position = traffic.board.sentRequests.length := by
  cases owning.client_step executions travels with
  | kept found => exact .inl ⟨journey, found, sent, rfl, rfl, rfl⟩
  | opens => cases sent
  | @moves before takesFrame stage proceeds found stepped =>
      cases here : before.stage with
      | opened => exact .inr (by simp [moved, here])
      | waiting deadline =>
          exact .inl ⟨before, found, by rw [here]; rfl, rfl, rfl, by simp [moved, here]⟩
      | ended result => simp [clientStep, Sending.step, here] at stepped

theorem inHands_iff {channel : Channel} {frame : Frame} :
    traffic.InHands channel frame ↔
      ∃ name stage, traffic.hand? name = some stage ∧ stage.channel? = some channel ∧
        stage.frame? = some frame := by
  constructor
  · rintro ⟨name, stage, found, has, holds⟩
    exact ⟨name, stage, by simp [hand?_of_found found, holds], has, holds⟩
  · rintro ⟨name, stage, hand, has, holds⟩
    exact ⟨name, stage, (Option.filter_eq_some_iff.mp hand).1, has, holds⟩

theorem inHands_of_hand? {name : ι} {stage : Service.Stage} {channel : Channel} {frame : Frame}
    (hand : traffic.hand? name = some stage) (has : stage.channel? = some channel)
    (holds : stage.frame? = some frame) : traffic.InHands channel frame :=
  inHands_iff.mpr ⟨name, stage, hand, has, holds⟩

/-- A frame stays in its hands unless they are those of the service that moved. -/
theorem InHands.elsewhere {channel : Channel} {frame : Frame} (held : traffic.InHands channel frame)
    {name : ι} {last? : Option Service.Stage}
    (hands : next.hand? = Function.update traffic.hand? name last?) :
    next.InHands channel frame ∨
      ∃ stage, traffic.hand? name = some stage ∧ stage.channel? = some channel ∧
        stage.frame? = some frame := by
  obtain ⟨other, stage, hand, has, holds⟩ := inHands_iff.mp held
  by_cases own : other = name
  · exact .inr ⟨stage, own ▸ hand, has, holds⟩
  · exact .inl (inHands_of_hand? (by rw [hands, Function.update_of_ne own, hand]) has holds)

omit [DecidableEq ι] in
theorem sentUnder_congr (kept : next.board.sentResponses = traffic.board.sentResponses) (tag : Tag)
    (response : tag.isRequest = false) : next.board.sentUnder tag = traffic.board.sentUnder tag := by
  rw [Switchboard.sentUnder_eq_filter response, kept, Switchboard.sentUnder_eq_filter response]

/-- The place of a request in the queue is that of its frame behind those that were taken. -/
theorem Owning.queued_eq (owning : traffic.Owning) (place : Nat) :
    traffic.board.bus.queue[place]? =
      traffic.board.sentRequests[traffic.board.taken.length + place]? := by
  have balanced : traffic.board.taken.map Prod.snd ++ traffic.board.bus.queue =
      traffic.board.sentRequests := owning.balanced.requests
  rw [← balanced, List.getElem?_append_right (by simp)]
  simp

/-- Nothing is taken that was not sent before. -/
theorem Owning.taken_le (owning : traffic.Owning) {move : Move ι}
    (effect : traffic.Effect executions move next) :
    next.board.taken.length ≤ traffic.board.sentRequests.length := by
  have balanced : traffic.board.taken.map Prod.snd ++ traffic.board.bus.queue =
      traffic.board.sentRequests := owning.balanced.requests
  have total : traffic.board.taken.length + traffic.board.bus.queue.length =
      traffic.board.sentRequests.length := by
    rw [← balanced, List.length_append, List.length_map]
  cases effect with
  | quiet board => rw [board.taken]; omega
  | sends _ _ _ _ taken => rw [taken]; omega
  | takes _ queued _ _ taken =>
      have nonempty := List.length_pos_of_mem (List.mem_of_head? queued)
      rw [taken, List.length_append, List.length_singleton]
      omega
  | handles _ board => rw [board]; omega
  | replies _ _ _ taken => rw [taken]; omega

theorem Private.delivers (hidden : Private executions traffic)
    (responsive : ∀ name, (executions name).Responsive) {move : Move ι}
    (effect : traffic.Effect executions move next) {request : Request} {heard position : Nat}
    (fits : request.fits = true) (awaits : request.isOneWay = false)
    (own : traffic.board.sentRequests[position]? = some request.frame)
    (early : heard ≤ (traffic.board.sentUnder request.responseTag).length)
    (before : position < traffic.board.taken.length →
      (∃ channel, traffic.board.taken[position]? = some (channel, request.frame) ∧
        traffic.InHands channel request.frame) ∨
        heard < (traffic.board.sentUnder request.responseTag).length)
    (taken : position < next.board.taken.length) :
    (∃ channel, next.board.taken[position]? = some (channel, request.frame) ∧
      next.InHands channel request.frame) ∨
      heard < (next.board.sentUnder request.responseTag).length := by
  have response := request.isRequest_responseTag
  -- As long as nobody puts the frame away it stays in the same hands.
  have kept (same : next.board.taken = traffic.board.taken) (hands : next.hand? = traffic.hand?)
      (responses : next.board.sentResponses = traffic.board.sentResponses) :
      (∃ channel, next.board.taken[position]? = some (channel, request.frame) ∧
        next.InHands channel request.frame) ∨
        heard < (next.board.sentUnder request.responseTag).length := by
    simp only [inHands_iff, hands, same, sentUnder_congr responses _ response]
    simp only [inHands_iff] at before
    exact before (same ▸ taken)
  cases effect with
  | quiet board hands => exact kept board.taken hands board.responses
  | sends _ _ _ responses same hands => exact kept same hands responses
  | @takes name channel frame empty queued _ responses more hands =>
      rw [sentUnder_congr responses _ response]
      by_cases old : position < traffic.board.taken.length
      · refine (before old).imp_left ?_
        rintro ⟨reader, place, held⟩
        refine ⟨reader, by rw [more, List.getElem?_append_left old, place], ?_⟩
        rcases held.elsewhere hands with still | ⟨stage, hand, -⟩
        · exact still
        · cases empty.symm.trans hand
      · have last : position = traffic.board.taken.length := by
          rw [more, List.length_append, List.length_singleton] at taken
          omega
        have first := hidden.owning.queued_eq 0
        rw [List.head?_eq_getElem?] at queued
        rw [Nat.add_zero, ← last, own, queued, Option.some.injEq] at first
        subst first
        exact .inl ⟨channel, by simp [more, last],
          inHands_of_hand? (by rw [hands, Function.update_self]) rfl rfl⟩
  | @handles name channel frame held board hands =>
      rw [board] at taken ⊢
      refine (before taken).imp_left ?_
      rintro ⟨reader, place, inHands⟩
      refine ⟨reader, place, ?_⟩
      rcases inHands.elsewhere hands with still | ⟨stage, hand, has, holds⟩
      · exact still
      · cases held.symm.trans hand
        cases has
        cases holds
        obtain ⟨reply, replied⟩ := (responsive name).guarded.exists_reply traffic.host awaits
        have answered := (Service.handle_request (executions name) traffic.host
          (Request.request?_frame fits)).2
        rw [replied, Option.map_some] at answered
        have hand : next.hand? name =
            some (.replying channel request.frame (Service.replyFrame request reply)) := by
          rw [hands, Function.update_self, answered]
          rfl
        exact inHands_of_hand? hand rfl rfl
  | @replies name channel frame reply held _ responses same hands =>
      rw [same] at taken ⊢
      have more : next.board.sentUnder request.responseTag =
          traffic.board.sentUnder request.responseTag ++
            [reply].filter fun frame => frame.tag = request.responseTag := by
        rw [Switchboard.sentUnder_eq_filter response, responses, List.filter_append,
          Switchboard.sentUnder_eq_filter response]
      rcases before taken with ⟨reader, place, inHands⟩ | heardOne
      · rcases inHands.elsewhere hands with still | ⟨stage, hand, has, holds⟩
        · exact .inl ⟨reader, place, still⟩
        · cases held.symm.trans hand
          cases has
          cases holds
          have tag := hidden.answering.tag_eq fits held
          right
          simp [more, tag]
          omega
      · right
        rw [more, List.length_append]
        omega

theorem Delivering.after (delivering : traffic.Delivering) (hidden : Private executions traffic)
    (responsive : ∀ name, (executions name).Responsive) {move : Move ι}
    (inside : ∀ act, move ≠ .outside act) : (traffic.after executions move).Delivering := by
  intro id journey travels sent awaits taken
  have effect := hidden.effect inside
  rcases hidden.owning.sent_before executions travels sent with
    ⟨before, found, hadSent, request, heard, position⟩ | last
  · have tracked := hidden.tracking id before found
    rw [← request] at awaits ⊢
    rw [← heard]
    rw [← position] at taken ⊢
    exact hidden.delivers responsive effect (hidden.writable found) awaits (tracked.own hadSent)
      tracked.early (delivering id before found hadSent awaits) taken
  · have bound := hidden.owning.taken_le effect
    omega

/-- The request of a client is queued, or in the hands of the service that took it, or there is a response
in the buffer of the client, with which its call is over at the next look. -/
inductive Whereabouts (traffic : Traffic ι η) (id : Nat) (journey : Journey) : Prop where
  | queued (untaken : traffic.board.taken.length ≤ journey.position)
      (place : traffic.board.bus.queue[journey.position - traffic.board.taken.length]? =
        some journey.request.frame)
  | held (channel : Channel)
      (place : traffic.board.taken[journey.position]? = some (channel, journey.request.frame))
      (inHands : traffic.InHands channel journey.request.frame)
  | answered (reply : Reply) (later : List Frame)
      (buffered : traffic.board.bus.subscriptions.find? id =
        some {
          tag := journey.request.responseTag
          buffer := { tag := journey.request.responseTag, payload := reply.encode } :: later })
      (completes : ∀ takesFrame, (traffic.clientStep takesFrame journey).2 =
        some (.ended (((Reply.decode reply.encode).mapError .faulty).map some)))
      (returns : reply.fits = true → ∀ takesFrame,
        (traffic.clientStep takesFrame journey).2 = some (.ended (.ok (some reply))))

/-- Let any number of clients and services move in any order on one open bus, with services that come
and go and hosts that may be shared. As long as a client waits for a reply, its request is queued or held
by a service, or the reply is there. -/
theorem reply_never_lost {κ : Type} [DecidableEq κ] {σ : κ → Type} (works : ι → κ)
    (catalogs : ∀ name, Catalog (σ name)) (hosts : ∀ name, Host (σ name)) (now : Nat)
    (moves : List (Move ι)) :
    let executions name := Execution.on (works name) (Host.execute (catalogs (works name)))
    let traffic := run executions { host := hosts, now } moves
    (∀ act, .outside act ∉ moves) → (∀ request ∈ requestsOf moves, request.fits = true) →
      traffic.board.bus.closed = false ∧
        traffic.board.taken.map Prod.snd ++ traffic.board.bus.queue = traffic.board.sentRequests ∧
        ∀ id journey deadline, traffic.journeys.find? id = some journey →
          journey.stage = .waiting deadline → journey.request.isOneWay = false →
            traffic.board.sentRequests[journey.position]? = some journey.request.frame ∧
              traffic.Whereabouts id journey := by
  intro executions traffic inside fits
  have responsive (name : ι) : (executions name).Responsive :=
    (Host.execute_responsive (catalogs (works name))).on
  obtain ⟨hidden, delivering⟩ : Private executions traffic ∧ traffic.Delivering :=
    (Private.initially executions hosts now).run_induction
      (fun hidden delivering inside => delivering.after hidden responsive inside)
      (by simp [Delivering]) moves inside fits
  refine ⟨hidden.isOpen, hidden.owning.balanced.requests, ?_⟩
  intro id journey deadline found waits awaits
  have sent : journey.stage.hasSent = true := by rw [waits]; rfl
  have own := (hidden.tracking id journey found).own sent
  refine ⟨own, ?_⟩
  by_cases taken : journey.position < traffic.board.taken.length
  · rcases delivering id journey found sent awaits taken with ⟨channel, place, held⟩ | answered
    · exact .held channel place held
    · obtain ⟨reply, later, subscribed, -, completes⟩ := hidden.completes found waits answered
      refine .answered reply later subscribed completes fun written takesFrame => ?_
      rw [completes takesFrame, Reply.decode_own written]
      rfl
  · have queued : traffic.board.taken.length ≤ journey.position := Nat.le_of_not_lt taken
    refine .queued queued ?_
    rw [hidden.owning.queued_eq, Nat.add_sub_cancel' queued, own]

/-- Of two services the first has answered a call without its argument and stopped, and the second has
just taken the next call. A third call is queued. -/
theorem reply_never_lost_malformed :
    let echo arguments := Request.invokeStatic "demo.Echo" "echo" [.i32] arguments
    let catalog : Catalog Unit :=
      .ofClasses [.ofMembers ⟨"demo.Echo", "Echo"⟩
        [.method "echo" [.i32] (.static fun arguments => .ok (.list arguments))]]
    let moves : List (Move Bool) :=
      [.start false, .serve false false, .start true, .serve true false,
        .send false none (echo []), .proceed 3 false, .serve false false, .serve false false,
        .serve false false, .serve false false, .stop false,
        .send false (some 5) (echo [.i32 2]), .proceed 4 false, .serve true false,
        .send false none (echo [.i32 3]), .proceed 5 false]
    let traffic := run (fun _ => Execution.on () (Host.execute catalog))
      { host := fun _ => Host.initial catalog } moves
    let journey (id heard position : Nat) (limit : Option Nat) (request : Request) : Journey :=
      { request
        oneWay := false
        limit
        channel := ⟨id, .exact request.responseTag⟩
        stage := .waiting limit
        heard
        position }
    let malformed := journey 3 0 0 none (echo [])
    let next := journey 4 1 1 (some 5) (echo [.i32 2])
    let last := journey 5 1 2 none (echo [.i32 3])
    (∀ act, .outside act ∉ moves) ∧ (∀ request ∈ requestsOf moves, request.fits = true) ∧
      traffic.journeys.entries = [(3, malformed), (4, next), (5, last)] ∧
      (echo []).checkShape = .error (.arity 1 0) ∧
      (∀ takesFrame, (traffic.clientStep takesFrame malformed).2 =
        some (.ended (.ok (some (.refused .unsupported))))) ∧
      traffic.InHands ⟨2, .requests⟩ (echo [.i32 2]).frame ∧
      traffic.board.bus.queue[0]? = some (echo [.i32 3]).frame := by
  intro echo catalog moves traffic journey malformed next last
  have inside : ∀ act, .outside act ∉ moves := by simp [moves]
  have fits : ∀ request ∈ requestsOf moves, request.fits = true := by decide +kernel
  have journeys : traffic.journeys.entries = [(3, malformed), (4, next), (5, last)] := by
    decide +kernel
  have services : traffic.services.entries =
      [(true, .holding ⟨2, .requests⟩ (echo [.i32 2]).frame)] := by
    decide +kernel
  have taken : traffic.board.taken =
      [(⟨1, .requests⟩, (echo []).frame), (⟨2, .requests⟩, (echo [.i32 2]).frame)] := by
    decide +kernel
  have buffers : traffic.board.bus.subscriptions.entries =
      [(3, ⟨(echo []).responseTag,
          [⟨(echo []).responseTag, (Reply.refused .unsupported).encode⟩]⟩),
        (4, ⟨(echo []).responseTag, []⟩), (5, ⟨(echo []).responseTag, []⟩)] := by
    decide +kernel
  obtain ⟨-, -, each⟩ := reply_never_lost (fun _ => ()) (fun _ => catalog)
    (fun _ => Host.initial catalog) 0 moves inside fits
  have first : traffic.Whereabouts 3 malformed :=
    (each 3 malformed none (by rw [Association.find?, journeys]; rfl) rfl rfl).2
  have second : traffic.Whereabouts 4 next :=
    (each 4 next (some 5) (by rw [Association.find?, journeys]; rfl) rfl rfl).2
  have third : traffic.Whereabouts 5 last :=
    (each 5 last none (by rw [Association.find?, journeys]; rfl) rfl rfl).2
  refine ⟨inside, fits, journeys, by decide +kernel, ?_⟩
  -- From here on the traffic is known by these facts alone and is not evaluated again.
  clear_value traffic
  refine ⟨?_, ?_, ?_⟩
  · cases first with
    | queued early =>
        rw [taken] at early
        cases early
    | held channel place inHands =>
        rw [taken] at place
        cases place
        obtain ⟨name, stage, found, has, _⟩ := inHands
        rw [Association.find?, services] at found
        cases name <;> cases found
        cases has
    | answered reply later buffered completes =>
        rw [Association.find?, buffers] at buffered
        obtain ⟨-, ⟨-, encoded⟩, -⟩ :
            _ ∧ (_ ∧ (Reply.refused .unsupported).encode = reply.encode) ∧ later = [] := by
          simpa [Association.lookup] using buffered
        intro takesFrame
        rw [completes takesFrame, ← encoded]
        rfl
  · cases second with
    | queued early =>
        rw [taken] at early
        exact absurd early (by decide)
    | held channel place inHands =>
        rw [taken] at place
        cases place
        exact inHands
    | answered reply later buffered =>
        rw [Association.find?, buffers] at buffered
        cases buffered
  · cases third with
    | queued _ place =>
        rw [taken] at place
        exact place
    | held channel place =>
        rw [taken] at place
        cases place
    | answered reply later buffered =>
        rw [Association.find?, buffers] at buffered
        cases buffered

/-- After a service has taken a request and before it has published the reply, the request is not queued
and the client that waits has no response. -/
theorem taken_request_unanswered :
    let echo := Request.invokeStatic "demo.Echo" "echo" [.i32] [.i32 1]
    let catalog : Catalog Unit :=
      .ofClasses [.ofMembers ⟨"demo.Echo", "Echo"⟩
        [.method "echo" [.i32] (.static fun arguments => .ok (.list arguments))]]
    let traffic := run (fun _ => Host.execute catalog) { host := Host.initial catalog }
      [.start (), .send false none echo, .proceed 1 false, .serve () false, .serve () false]
    echo.isOneWay = false ∧
      (traffic.journeys.find? 1).map (fun journey => (journey.request, journey.stage)) =
        some (echo, .waiting none) ∧
      traffic.board.bus.closed = false ∧
      traffic.board.bus.queue = [] ∧
      traffic.board.bus.subscriptions.find? 1 = some { tag := echo.responseTag, buffer := [] } := by
  decide +kernel

end Traffic

end RemoteObjects
