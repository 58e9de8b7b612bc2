import Mathlib.Data.List.Induction
import RemoteObjects.Catalog.Basic
import RemoteObjects.Proofs.Association

namespace RemoteObjects

variable {σ : Type}

/-- A class with its members, in the order in which they are declared. -/
structure Declaration (σ : Type) where
  owner : Owner
  members : List (Member σ)

def Declaration.build (declaration : Declaration σ) : Class σ :=
  .ofMembers declaration.owner declaration.members

def Catalog.ofDeclarations (declarations : List (Declaration σ)) : Catalog σ :=
  .ofClasses (declarations.map Declaration.build)

/-- A field without its bodies. -/
inductive FieldOutline where
  | object (type : ValueType)
  | static (type : ValueType) (initial : Value)
deriving DecidableEq, Repr

def Member.outline? (name : String) : Member σ → Option FieldOutline
  | .field declared type _ _ => if declared = name then some (.object type) else none
  | .staticField declared type initial =>
      if declared = name then some (.static type initial) else none
  | .constructor .. | .method .. => none

/-- The class that was declared last under its name has the field that was declared last in it. -/
def Declaration.outline? (declarations : List (Declaration σ)) (className name : String) :
    Option FieldOutline :=
  (declarations.reverse.find? fun declaration => declaration.owner.className = className).bind
    fun latest => latest.members.reverse.findSome? (Member.outline? name)

/-- What a class holds under the name of a field that was declared in this way. -/
def Class.Holds (found : Class σ) (name : String) : Option FieldOutline → Prop
  | none => found.fields.find? name = none
  | some (.object type) => ∃ get set,
      found.fields.find? name =
        some { owner := found.owner, name, type, store := .object get set }
  | some (.static type initial) =>
      found.fields.find? name = some { owner := found.owner, name, type, store := .static } ∧
        found.statics.find? name = some initial

theorem Class.owner_declare (current : Class σ) (member : Member σ) :
    (current.declare member).owner = current.owner := by
  cases member <;> rfl

/-- A declaration that says nothing of a field leaves it as it is. -/
theorem Class.Holds.congr {first second : Class σ} {name : String} {outline : Option FieldOutline}
    (holds : first.Holds name outline) (owner : second.owner = first.owner)
    (fields : second.fields.find? name = first.fields.find? name)
    (statics : second.statics.find? name = first.statics.find? name) :
    second.Holds name outline := by
  match outline with
  | none => exact fields.trans holds
  | some (.object type) =>
      obtain ⟨get, set, found⟩ := holds
      exact ⟨get, set, by rw [fields, found, owner]⟩
  | some (.static type initial) =>
      obtain ⟨found, value⟩ := holds
      exact ⟨by rw [fields, found, owner], by rw [statics, value]⟩

theorem Class.Holds.declare {current : Class σ} {name : String} {outline : Option FieldOutline}
    (holds : current.Holds name outline) (member : Member σ) :
    (current.declare member).Holds name ((member.outline? name).or outline) := by
  cases member with
  | constructor types body => exact holds.congr rfl rfl rfl
  | method declared types body => exact holds.congr rfl rfl rfl
  | field declared type get set =>
      by_cases same : declared = name
      · subst same
        simp [Member.outline?, Class.declare, Class.Holds]
      · simp only [Member.outline?, if_neg same, Option.none_or]
        exact holds.congr rfl (by simp [Class.declare, same]) rfl
  | staticField declared type initial =>
      by_cases same : declared = name
      · subst same
        simp [Member.outline?, Class.declare, Class.Holds]
      · simp only [Member.outline?, if_neg same, Option.none_or]
        exact holds.congr rfl (by simp [Class.declare, same]) (by simp [Class.declare, same])

theorem Class.ofMembers_concat (owner : Owner) (members : List (Member σ)) (member : Member σ) :
    Class.ofMembers owner (members ++ [member]) =
      (Class.ofMembers owner members).declare member := by
  simp [Class.ofMembers]

theorem Class.holds_ofMembers (owner : Owner) (members : List (Member σ)) (name : String) :
    (Class.ofMembers owner members).Holds name
      (members.reverse.findSome? (Member.outline? name)) := by
  induction members using List.reverseRecOn with
  | nil => rfl
  | append_singleton members member ih =>
      have step := ih.declare member
      have split : (members ++ [member]).reverse.findSome? (Member.outline? name) =
          (member.outline? name).or (members.reverse.findSome? (Member.outline? name)) := by
        rw [List.reverse_concat, List.findSome?_cons]
        cases member.outline? name <;> rfl
      rw [split, ofMembers_concat]
      exact step

theorem Class.owner_ofMembers (owner : Owner) (members : List (Member σ)) :
    (Class.ofMembers owner members).owner = owner := by
  induction members using List.reverseRecOn with
  | nil => rfl
  | append_singleton members member ih =>
      rw [ofMembers_concat, Class.owner_declare, ih]

namespace Catalog

theorem ofClasses_concat (classes : List (Class σ)) (added : Class σ) :
    ofClasses (classes ++ [added]) = (ofClasses classes).register added := by
  simp [ofClasses]

theorem find?_ofClasses (classes : List (Class σ)) (className : String) :
    (ofClasses classes).classes.find? className =
      classes.reverse.find? fun found => found.owner.className = className := by
  induction classes using List.reverseRecOn with
  | nil => rfl
  | append_singleton classes added ih =>
      rw [ofClasses_concat, List.reverse_concat, List.find?_cons, ← ih]
      by_cases same : added.owner.className = className
      · simp [register, same]
      · simp [register, same]

theorem nodup_ofClasses (classes : List (Class σ)) : (ofClasses classes).classes.keys.Nodup := by
  induction classes using List.reverseRecOn with
  | nil => exact List.nodup_nil
  | append_singleton classes added ih =>
      rw [ofClasses_concat]
      exact Association.nodup_keys_set ih _ _

/-- The latest declaration of a class is the one that is built. -/
theorem find?_ofDeclarations (declarations : List (Declaration σ)) (className : String) :
    (ofDeclarations declarations).classes.find? className =
      (declarations.reverse.find? fun declaration =>
        declaration.owner.className = className).map Declaration.build := by
  rw [ofDeclarations, find?_ofClasses, ← List.map_reverse, List.find?_map]
  have owners : ((fun found : Class σ => decide (found.owner.className = className)) ∘
      Declaration.build) = fun declaration => decide (declaration.owner.className = className) := by
    funext declaration
    simp [Declaration.build, Class.owner_ofMembers]
  rw [owners]

/-- The initial value of a static field is found in its class. -/
theorem find?_initialStatics {catalog : Catalog σ} (nodup : catalog.classes.keys.Nodup)
    (className name : String) :
    catalog.initialStatics.find? (className, name) =
      (catalog.classes.find? className).bind fun found => found.statics.find? name :=
  Association.lookup_flatMap (fun found : Class σ => found.statics.entries) nodup className name

theorem findField_eq_ok_iff {catalog : Catalog σ} {className name : String} {scope : Scope}
    {field : Field σ} :
    catalog.findField className name scope = .ok field ↔
      ∃ found, catalog.classes.find? className = some found ∧
        found.fields.find? name = some field ∧ field.scope = scope := by
  simp only [findField, findClass]
  cases catalog.classes.find? className with
  | none => simp [bind, Except.bind]
  | some found =>
      simp only [bind, Except.bind, Option.some.injEq, exists_eq_left']
      cases filtered : (found.fields.find? name).filter fun field => field.scope = scope with
      | none =>
          have missing := Option.filter_eq_none_iff.mp filtered
          simp only [reduceCtorEq, false_iff, not_and]
          intro known
          simpa using missing field known
      | some other =>
          obtain ⟨known, fits⟩ := Option.filter_eq_some_iff.mp filtered
          rw [known]
          simp only [pure, Except.pure, Except.ok.injEq, Option.some.injEq]
          constructor
          · rintro rfl
            exact ⟨rfl, by simpa using fits⟩
          · exact And.left

variable {declarations : List (Declaration σ)} {className name : String}

/-- A field that is found in the static scope was declared there. It goes by its own name and starts
with its declared value. -/
theorem declared_of_findField {field : Field σ}
    (found : (ofDeclarations declarations).findField className name .static = .ok field) :
    field.key = (className, name) ∧ field.store = .static ∧
      ∃ initial,
        Declaration.outline? declarations className name = some (.static field.type initial) ∧
          (ofDeclarations declarations).initialStatics.find? (className, name) = some initial := by
  obtain ⟨built, known, entry, scope⟩ := findField_eq_ok_iff.mp found
  have nodup : (ofDeclarations declarations).classes.keys.Nodup := nodup_ofClasses _
  rw [find?_initialStatics nodup, known]
  rw [find?_ofDeclarations, Option.map_eq_some_iff] at known
  obtain ⟨latest, declared, rfl⟩ := known
  have owner : latest.owner.className = className := by simpa using List.find?_some declared
  have holds : latest.build.Holds name _ :=
    Class.holds_ofMembers latest.owner latest.members name
  rw [Declaration.outline?, declared]
  simp only [Option.bind_some]
  revert holds
  cases latest.members.reverse.findSome? (Member.outline? name) with
  | none =>
      intro holds
      cases entry.symm.trans holds
  | some outline =>
      cases outline with
      | object type =>
          rintro ⟨get, set, holds⟩
          cases entry.symm.trans holds
          cases scope
      | static type initial =>
          rintro ⟨holds, value⟩
          cases entry.symm.trans holds
          refine ⟨?_, rfl, initial, rfl, value⟩
          simp [Field.key, Declaration.build, Class.owner_ofMembers, owner]

theorem findField_of_declared {type : ValueType} {initial : Value}
    (declared : Declaration.outline? declarations className name = some (.static type initial)) :
    ∃ field : Field σ,
      (ofDeclarations declarations).findField className name .static = .ok field ∧
        field.type = type := by
  obtain ⟨latest, found, outlined⟩ := Option.bind_eq_some_iff.mp declared
  have holds := Class.holds_ofMembers latest.owner latest.members name
  rw [outlined] at holds
  refine ⟨_, findField_eq_ok_iff.mpr ⟨latest.build, ?_, holds.1, rfl⟩, rfl⟩
  rw [find?_ofDeclarations, found]
  rfl

end Catalog

end RemoteObjects
