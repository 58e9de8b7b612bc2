import RemoteObjects.Proofs.Catalog

namespace RemoteObjects

variable {σ : Type}

def Member.constructor? (owner : Owner) : Member σ → Option (Constructor σ)
  | .constructor types body => some { owner, types, body }
  | .method .. | .field .. | .staticField .. => none

def Member.method? (owner : Owner) : Member σ → Option (Method σ)
  | .method name types body => some { owner, name, types, body }
  | .constructor .. | .field .. | .staticField .. => none

/-- Of several declarations of a class the latest counts. -/
def Declaration.latest? (declarations : List (Declaration σ)) (className : String) :
    Option (Declaration σ) :=
  declarations.reverse.find? fun declaration => declaration.owner.className = className

namespace Class

theorem constructors_ofMembers (owner : Owner) (members : List (Member σ)) :
    (ofMembers owner members).constructors = members.filterMap (Member.constructor? owner) := by
  induction members using List.reverseRecOn with
  | nil => rfl
  | append_singleton members member ih =>
      rw [ofMembers_concat, List.filterMap_append, ← ih]
      cases member <;> simp [declare, Member.constructor?, owner_ofMembers]

theorem methods_ofMembers (owner : Owner) (members : List (Member σ)) :
    (ofMembers owner members).methods = members.filterMap (Member.method? owner) := by
  induction members using List.reverseRecOn with
  | nil => rfl
  | append_singleton members member ih =>
      rw [ofMembers_concat, List.filterMap_append, ← ih]
      cases member <;> simp [declare, Member.method?, owner_ofMembers]

/-- A field belongs to the class that has it. -/
theorem Holds.owner {current : Class σ} {name : String} {outline : Option FieldOutline}
    (holds : current.Holds name outline) {field : Field σ}
    (found : current.fields.find? name = some field) : field.owner = current.owner := by
  cases outline with
  | none => cases found.symm.trans holds
  | some outline =>
      cases outline with
      | object type =>
          obtain ⟨get, set, held⟩ := holds
          cases found.symm.trans held
          rfl
      | static type initial =>
          cases found.symm.trans holds.1
          rfl

end Class

namespace Catalog

variable {catalog : Catalog σ} {className name : String} {types : List ValueType} {scope : Scope}

theorem findConstructor_eq_ok_iff {constructor : Constructor σ} :
    catalog.findConstructor className types = .ok constructor ↔
      ∃ found, catalog.classes.find? className = some found ∧
        found.constructors.find? (fun constructor => constructor.types = types) =
          some constructor := by
  simp only [findConstructor, findClass]
  cases catalog.classes.find? className with
  | none => simp [bind, Except.bind]
  | some found =>
      simp only [bind, Except.bind, Option.some.injEq, exists_eq_left']
      cases found.constructors.find? fun constructor => constructor.types = types with
      | none => simp
      | some other => simp [pure, Except.pure]

theorem findMethod_eq_ok_iff {method : Method σ} :
    catalog.findMethod className name types scope = .ok method ↔
      ∃ found, catalog.classes.find? className = some found ∧
        found.methods.find? (fun method =>
          method.name = name && method.types = types && method.scope = scope) = some method := by
  simp only [findMethod, findClass]
  cases catalog.classes.find? className with
  | none => simp [bind, Except.bind]
  | some found =>
      simp only [bind, Except.bind, Option.some.injEq, exists_eq_left']
      cases found.methods.find? fun method =>
          method.name = name && method.types = types && method.scope = scope with
      | none => simp
      | some other => simp [pure, Except.pure]

theorem scope_of_findMethod {method : Method σ}
    (found : catalog.findMethod className name types scope = .ok method) : method.scope = scope := by
  obtain ⟨built, known, searched⟩ := findMethod_eq_ok_iff.mp found
  have fits := List.find?_some searched
  simp only [Bool.and_eq_true, decide_eq_true_eq] at fits
  exact fits.2

section Declared

variable {declarations : List (Declaration σ)}

/-- A class that is found is built from its latest declaration. -/
theorem latest_of_find? {found : Class σ}
    (known : (ofDeclarations declarations).classes.find? className = some found) :
    ∃ latest, Declaration.latest? declarations className = some latest ∧ found = latest.build := by
  rw [find?_ofDeclarations, Option.map_eq_some_iff] at known
  obtain ⟨latest, declared, rfl⟩ := known
  exact ⟨latest, declared, rfl⟩

theorem declared_of_findConstructor {constructor : Constructor σ}
    (found : (ofDeclarations declarations).findConstructor className types = .ok constructor) :
    ∃ latest, Declaration.latest? declarations className = some latest ∧
      constructor.owner = latest.owner ∧ constructor.types = types ∧
        .constructor constructor.types constructor.body ∈ latest.members := by
  obtain ⟨built, known, searched⟩ := findConstructor_eq_ok_iff.mp found
  obtain ⟨latest, declared, rfl⟩ := latest_of_find? known
  have fits : constructor.types = types := by simpa using List.find?_some searched
  have member := List.mem_of_find?_eq_some searched
  rw [Declaration.build, Class.constructors_ofMembers] at member
  obtain ⟨origin, declares, builds⟩ := List.mem_filterMap.mp member
  cases origin with
  | constructor types body =>
      cases builds
      exact ⟨latest, declared, rfl, fits, declares⟩
  | method | field | staticField => cases builds

theorem owner_of_findMethod {method : Method σ}
    (found : (ofDeclarations declarations).findMethod className name types scope = .ok method) :
    ∃ latest, Declaration.latest? declarations className = some latest ∧
      method.owner = latest.owner := by
  obtain ⟨built, known, searched⟩ := findMethod_eq_ok_iff.mp found
  obtain ⟨latest, declared, rfl⟩ := latest_of_find? known
  have member := List.mem_of_find?_eq_some searched
  rw [Declaration.build, Class.methods_ofMembers] at member
  obtain ⟨origin, declares, builds⟩ := List.mem_filterMap.mp member
  cases origin with
  | method name types body =>
      cases builds
      exact ⟨latest, declared, rfl⟩
  | constructor | field | staticField => cases builds

/-- A field of either scope belongs to the latest declaration of its class. -/
theorem owner_of_findField {field : Field σ}
    (found : (ofDeclarations declarations).findField className name scope = .ok field) :
    ∃ latest, Declaration.latest? declarations className = some latest ∧
      field.owner = latest.owner := by
  obtain ⟨built, known, searched, fits⟩ := findField_eq_ok_iff.mp found
  obtain ⟨latest, declared, rfl⟩ := latest_of_find? known
  have holds := Class.holds_ofMembers latest.owner latest.members name
  exact ⟨latest, declared, (holds.owner searched).trans (Class.owner_ofMembers ..)⟩

end Declared

end Catalog

end RemoteObjects
