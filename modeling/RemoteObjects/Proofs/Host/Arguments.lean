import Mathlib.Data.Option.Defs
import RemoteObjects.Proofs.Service.Answering
import RemoteObjects.Proofs.Signature

namespace RemoteObjects

variable {σ : Type}

/-- The bodies agree on the arguments that the types admit. -/
inductive Constructor.Alike : Constructor σ → Constructor σ → Prop where
  | body (owner : Owner) (types : Signature) {first second : List Value → Except BodyFailure σ}
      (agree : ∀ arguments, types.Admits arguments → first arguments = second arguments) :
      Alike ⟨owner, types, first⟩ ⟨owner, types, second⟩

inductive Method.Alike : Method σ → Method σ → Prop where
  | object (owner : Owner) (name : String) (types : Signature)
      {first second : σ → List Value → σ × Except BodyFailure Value}
      (agree : ∀ state arguments, types.Admits arguments →
        first state arguments = second state arguments) :
      Alike ⟨owner, name, types, .object first⟩ ⟨owner, name, types, .object second⟩
  | static (owner : Owner) (name : String) (types : Signature)
      {first second : List Value → Except BodyFailure Value}
      (agree : ∀ arguments, types.Admits arguments → first arguments = second arguments) :
      Alike ⟨owner, name, types, .static first⟩ ⟨owner, name, types, .static second⟩

/-- Fields are read in the same way, and the values that the type accepts are written in the same
way. -/
inductive Field.Alike : Field σ → Field σ → Prop where
  | object (owner : Owner) (name : String) (type : ValueType) (get : σ → Value)
      {first second : σ → Value → σ × Except BodyFailure Unit}
      (agree : ∀ state value, type.accepts value = true → first state value = second state value) :
      Alike ⟨owner, name, type, .object get first⟩ ⟨owner, name, type, .object get second⟩
  | static (owner : Owner) (name : String) (type : ValueType) :
      Alike ⟨owner, name, type, .static⟩ ⟨owner, name, type, .static⟩

theorem Constructor.Alike.types {first second : Constructor σ} (alike : first.Alike second) :
    first.types = second.types := by
  cases alike
  rfl

theorem Constructor.Alike.build {first second : Constructor σ} (alike : first.Alike second)
    (arguments : List Value) : first.build arguments = second.build arguments := by
  obtain ⟨owner, types, agree⟩ := alike
  unfold Constructor.build
  cases checked : types.require arguments with
  | error failure => rfl
  | ok _ => simp only [agree arguments ((types.require_eq_ok_iff arguments).mp checked)]

theorem Method.Alike.name {first second : Method σ} (alike : first.Alike second) :
    first.name = second.name := by
  cases alike <;> rfl

theorem Method.Alike.types {first second : Method σ} (alike : first.Alike second) :
    first.types = second.types := by
  cases alike <;> rfl

theorem Method.Alike.scope {first second : Method σ} (alike : first.Alike second) :
    first.scope = second.scope := by
  cases alike <;> rfl

theorem Method.Alike.invoke {first second : Method σ} (alike : first.Alike second)
    (target : Instance σ) (arguments : List Value) :
    first.invoke target arguments = second.invoke target arguments := by
  cases alike with
  | object owner name types agree =>
      unfold Method.invoke
      cases checked : types.require arguments with
      | error failure => rfl
      | ok _ =>
          have admitted := (types.require_eq_ok_iff arguments).mp checked
          simp only [agree target.state arguments admitted]
  | static owner name types agree =>
      unfold Method.invoke
      cases checked : types.require arguments with
      | error failure => rfl
      | ok _ => simp only [agree arguments ((types.require_eq_ok_iff arguments).mp checked)]

theorem Method.Alike.invokeStatic {first second : Method σ} (alike : first.Alike second)
    (arguments : List Value) : first.invokeStatic arguments = second.invokeStatic arguments := by
  cases alike with
  | object owner name types agree => rfl
  | static owner name types agree =>
      unfold Method.invokeStatic
      cases checked : types.require arguments with
      | error failure => rfl
      | ok _ => simp only [agree arguments ((types.require_eq_ok_iff arguments).mp checked)]

theorem Field.Alike.scope {first second : Field σ} (alike : first.Alike second) :
    first.scope = second.scope := by
  cases alike <;> rfl

theorem Field.Alike.read {first second : Field σ} (alike : first.Alike second) (statics : Statics)
    (target : Option (Instance σ)) : first.read statics target = second.read statics target := by
  cases alike with
  | object owner name type get agree => cases target <;> rfl
  | static owner name type => rfl

theorem Field.Alike.write {first second : Field σ} (alike : first.Alike second) (statics : Statics)
    (target : Option (Instance σ)) (value : Value) :
    first.write statics target value = second.write statics target value := by
  cases alike with
  | static owner name type => rfl
  | object owner name type get agree =>
      unfold Field.write
      by_cases accepted : type.accepts value = true
      · cases target with
        | none => rfl
        | some target => simp only [Field.require, accepted, agree target.state value accepted]
      · simp [Field.require, accepted]

/-- The constructors and methods of both classes are alike in their order, and the fields by their
names. -/
structure Class.Alike (first second : Class σ) : Prop where
  constructors : List.Forall₂ Constructor.Alike first.constructors second.constructors
  methods : List.Forall₂ Method.Alike first.methods second.methods
  fields : ∀ name, Option.Rel Field.Alike (first.fields.find? name) (second.fields.find? name)

theorem eq_of_rel {α : Type} {alike : α → α → Prop} {first second : Option α}
    (rel : Option.Rel alike first second) :
    first = none ∧ second = none ∨
      ∃ one other, first = some one ∧ second = some other ∧ alike one other := by
  cases rel with
  | none => exact .inl ⟨rfl, rfl⟩
  | some same => exact .inr ⟨_, _, rfl, rfl, same⟩

theorem find?_alike {α : Type} {alike : α → α → Prop} (wanted : α → Bool)
    (same : ∀ one other, alike one other → wanted one = wanted other) {first second : List α}
    (all : List.Forall₂ alike first second) :
    Option.Rel alike (first.find? wanted) (second.find? wanted) := by
  induction all with
  | nil => exact .none
  | cons head rest ih =>
      rw [List.find?_cons, List.find?_cons, same _ _ head]
      split
      · exact .some head
      · exact ih

theorem filter_alike {α : Type} {alike : α → α → Prop} (wanted : α → Bool)
    (same : ∀ one other, alike one other → wanted one = wanted other) {first second : Option α}
    (rel : Option.Rel alike first second) :
    Option.Rel alike (first.filter wanted) (second.filter wanted) := by
  cases rel with
  | none => exact .none
  | some head =>
      rw [Option.filter_some, Option.filter_some, same _ _ head]
      split
      · exact .some head
      · exact .none

namespace Catalog

/-- Both catalogs have the same classes, and these are alike. -/
def Alike (first second : Catalog σ) : Prop :=
  ∀ className, Option.Rel Class.Alike (first.classes.find? className)
    (second.classes.find? className)

/-- Both searches fail in the same way, or what they find is alike. -/
inductive Finds {α : Type} (alike : α → α → Prop) : Except Failure α → Except Failure α → Prop where
  | nothing (failure : Failure) : Finds alike (.error failure) (.error failure)
  | found {one other : α} (same : alike one other) : Finds alike (.ok one) (.ok other)

theorem Finds.eq {α : Type} {alike : α → α → Prop} {first second : Except Failure α}
    (finds : Finds alike first second) :
    (∃ failure, first = .error failure ∧ second = .error failure) ∨
      ∃ one other, first = .ok one ∧ second = .ok other ∧ alike one other := by
  cases finds with
  | nothing failure => exact .inl ⟨failure, rfl, rfl⟩
  | found same => exact .inr ⟨_, _, rfl, rfl, same⟩

theorem Finds.bind {α β : Type} {alike : α → α → Prop} {first second : Except Failure α}
    (finds : Finds alike first second) {relation : β → β → Prop}
    {next : α → Except Failure β}
    (follow : ∀ one other, alike one other → Finds relation (next one) (next other)) :
    Finds relation (first >>= next) (second >>= next) := by
  cases finds with
  | nothing failure => exact .nothing failure
  | found same => exact follow _ _ same

theorem Finds.bind_eq {α β : Type} {alike : α → α → Prop} {first second : Except Failure α}
    (finds : Finds alike first second) {next : α → Except Failure β}
    (follow : ∀ one other, alike one other → next one = next other) :
    (first >>= next) = second >>= next := by
  cases finds with
  | nothing failure => rfl
  | found same => exact follow _ _ same

namespace Alike

variable {first second : Catalog σ} (alike : first.Alike second) (className name : String)
  (types : List ValueType) (scope : Scope)

include alike

theorem findClass : Finds Class.Alike (first.findClass className) (second.findClass className) := by
  unfold Catalog.findClass
  rcases eq_of_rel (alike className) with ⟨one, other⟩ | ⟨_, _, one, other, same⟩
  · rw [one, other]
    exact .nothing _
  · rw [one, other]
    exact .found same

theorem findConstructor :
    Finds Constructor.Alike (first.findConstructor className types)
      (second.findConstructor className types) := by
  refine (alike.findClass className).bind fun one other same => ?_
  have searched := find?_alike (fun constructor => decide (constructor.types = types))
    (fun _ _ same => by rw [same.types]) same.constructors
  rcases eq_of_rel searched with ⟨one, other⟩ | ⟨_, _, one, other, same⟩
  · rw [one, other]
    exact .nothing _
  · rw [one, other]
    exact .found same

theorem findMethod :
    Finds Method.Alike (first.findMethod className name types scope)
      (second.findMethod className name types scope) := by
  refine (alike.findClass className).bind fun one other same => ?_
  have searched := find?_alike (fun method =>
      method.name = name && method.types = types && method.scope = scope)
    (fun _ _ same => by rw [same.name, same.types, same.scope]) same.methods
  rcases eq_of_rel searched with ⟨one, other⟩ | ⟨_, _, one, other, same⟩
  · rw [one, other]
    exact .nothing _
  · rw [one, other]
    exact .found same

theorem findField :
    Finds Field.Alike (first.findField className name scope)
      (second.findField className name scope) := by
  refine (alike.findClass className).bind fun one other same => ?_
  have searched := filter_alike (fun field => decide (field.scope = scope))
    (fun _ _ same => by rw [same.scope]) (same.fields name)
  rcases eq_of_rel searched with ⟨one, other⟩ | ⟨_, _, one, other, same⟩
  · rw [one, other]
    exact .nothing _
  · rw [one, other]
    exact .found same

end Alike

end Catalog

namespace Host

variable {first second : Catalog σ}

theorem construct_alike (alike : first.Alike second) (host : Host σ) (handle : Handle)
    (className : String) (types : List ValueType) (arguments : List Value) :
    host.construct first handle className types arguments =
      host.construct second handle className types arguments := by
  unfold construct
  rw [(alike.findConstructor className types).bind_eq fun _ _ same => same.build arguments]

theorem invoke_alike (alike : first.Alike second) (host : Host σ) (handle : Handle)
    (className method : String) (types : List ValueType) (arguments : List Value) :
    host.invoke first handle className method types arguments =
      host.invoke second handle className method types arguments := by
  unfold invoke
  rw [(alike.findMethod className method types .static).bind_eq fun _ _ same =>
    same.invokeStatic arguments]
  rcases (alike.findMethod className method types .object).eq with
    ⟨failure, one, other⟩ | ⟨_, _, one, other, same⟩
  · rw [one, other]
  · simp only [one, other, same.invoke]

theorem readField_alike (alike : first.Alike second) (host : Host σ) (handle : Handle)
    (className name : String) (scope : Scope) :
    host.readField first handle className name scope =
      host.readField second handle className name scope := by
  have read (scope : Scope) (target : Option (Instance σ)) :=
    (alike.findField className name scope).bind_eq fun _ _ same => same.read host.statics target
  cases scope with
  | static => simp only [readField, read]
  | object => simp only [readField, read]

theorem writeField_alike (alike : first.Alike second) (host : Host σ) (handle : Handle)
    (className name : String) (value : Option Value) (scope : Scope) :
    host.writeField first handle className name value scope =
      host.writeField second handle className name value scope := by
  rcases (alike.findField className name scope).eq with
    ⟨failure, one, other⟩ | ⟨_, _, one, other, same⟩
  · cases scope <;> simp only [writeField, one, other]
  · cases scope <;> simp only [writeField, one, other, same.write]

theorem execute_alike (alike : first.Alike second) : execute first = execute second := by
  funext host request
  cases request with
  | construct handle className types arguments => simp only [execute, construct_alike alike]
  | invoke handle className method types arguments => simp only [execute, invoke_alike alike]
  | field handle className name value mode scope =>
      cases mode with
      | read => simp only [execute, readField_alike alike]
      | write => simp only [execute, writeField_alike alike]
  | finalize handle className => rfl

/-- What bodies and setters would do with values that the declared types reject shows in no reply and in no
state, whatever is requested. -/
theorem bodies_see_declared_arguments (alike : first.Alike second) (host : Host σ)
    (requests : List Request) :
    let same (one other : Execution (Host σ)) : Prop :=
      one.replies host requests = other.replies host requests ∧
        one.after host requests = other.after host requests
    same (execute first) (execute second) ∧ same (answer first) (answer second) := by
  intro same
  have executes := execute_alike alike
  have answers : answer first = answer second := by
    unfold answer
    rw [executes]
  rw [executes, answers]
  exact ⟨⟨rfl, rfl⟩, rfl, rfl⟩

/-- The bodies of a cell give away on which catalog they are whenever they get something that they did
not declare. Nothing of this shows, although the requests bring arguments that are missing or have
wrong types, name other types than those of the arguments, or write no value. -/
theorem bodies_see_declared_arguments_rough :
    let cells (stray : Int32) : Catalog Int32 :=
      .ofClasses [.ofMembers ⟨"demo.Cell", "Cell"⟩
        [.constructor [.i32] fun
            | [.i32 number] => .ok number
            | _ => .ok stray,
          .method "add" [.i32] (.object fun state arguments =>
            match arguments with
            | [.i32 number] => (state + number, .ok .null)
            | _ => (stray, .error ⟨["stray"]⟩)),
          .method "same" [.bool] (.static fun
            | [.bool flag] => .ok (.bool flag)
            | _ => .ok (.i32 stray)),
          .field "value" .i32 .i32 fun state value =>
            match value with
            | .i32 number => (number, .ok ())
            | _ => (stray + state, .ok ())]]
    let requests : List Request :=
      [.construct ⟨1⟩ "demo.Cell" [.i32] [], .construct ⟨1⟩ "demo.Cell" [.i32] [.str "7"],
        .construct ⟨1⟩ "demo.Cell" [.i32] [.i32 7],
        .invoke ⟨1⟩ "demo.Cell" "add" [.i32] [.i32 1, .i32 2],
        .invoke ⟨1⟩ "demo.Cell" "add" [.str] [.i32 1], .invoke ⟨1⟩ "demo.Cell" "add" [.i32] [.i32 1],
        .invokeStatic "demo.Cell" "same" [.bool] [.null],
        .field ⟨1⟩ "demo.Cell" "value" none .write .object, .readField ⟨1⟩ "demo.Cell" "value"]
    let replies (stray : Int32) := Execution.replies (execute (cells stray)) {} requests
    let after (stray : Int32) := Execution.after (execute (cells stray)) {} requests
    (cells 3).Alike (cells 4) ∧ replies 3 = replies 4 ∧ after 3 = after 4 ∧
      (replies 3).filterMap Prod.snd =
        [.refused .typeMismatch, .refused .memberNotFound, .granted .null, .refused .typeMismatch,
          .granted (.i32 8)] := by
  intro cells requests replies after
  have single {type : ValueType} {arguments : List Value}
      (admitted : Signature.Admits [type] arguments) :
      ∃ value, arguments = [value] ∧ type.accepts value = true := by
    obtain ⟨value, rest, accepted, none, rfl⟩ := List.forall₂_cons_left_iff.mp admitted
    exact ⟨value, by rw [List.forall₂_nil_left_iff.mp none], accepted⟩
  have members : Class.Alike ((cells 3).classes.entries[0]).2 ((cells 4).classes.entries[0]).2 := by
    refine ⟨.cons (.body _ _ ?_) .nil, .cons (.object _ _ _ ?_) (.cons (.static _ _ _ ?_) .nil), ?_⟩
    · intro arguments admitted
      obtain ⟨value, rfl, accepted⟩ := single admitted
      cases value with
      | i32 number => rfl
      | _ => cases accepted
    · intro state arguments admitted
      obtain ⟨value, rfl, accepted⟩ := single admitted
      cases value with
      | i32 number => rfl
      | _ => cases accepted
    · intro arguments admitted
      obtain ⟨value, rfl, accepted⟩ := single admitted
      cases value with
      | bool flag => rfl
      | _ => cases accepted
    · intro name
      change Option.Rel _ (if "value" = name then some _ else none)
        (if "value" = name then some _ else none)
      split
      · refine .some (.object _ _ _ _ ?_)
        intro state value accepted
        cases value with
        | i32 number => rfl
        | _ => cases accepted
      · exact .none
  have alike : (cells 3).Alike (cells 4) := by
    intro className
    change Option.Rel _ (if "demo.Cell" = className then some _ else none)
      (if "demo.Cell" = className then some _ else none)
    split
    · exact .some members
    · exact .none
  obtain ⟨⟨told, left⟩, _⟩ := bodies_see_declared_arguments alike {} requests
  exact ⟨alike, told, left, by decide +kernel⟩

end Host

end RemoteObjects
