import RemoteObjects.Proofs.Catalog.Members
import RemoteObjects.Proofs.List

namespace RemoteObjects

variable {σ : Type}

def Member.field? (owner : Owner) : Member σ → Option (Field σ)
  | .field name type get set => some { owner, name, type, store := .object get set }
  | .staticField name type _ => some { owner, name, type, store := .static }
  | .constructor .. | .method .. => none

namespace Declaration

/-- The constructors of a class in the order of their declarations; the same for methods and fields. -/
def constructors (declaration : Declaration σ) : List (Constructor σ) :=
  declaration.members.filterMap (Member.constructor? declaration.owner)

def methods (declaration : Declaration σ) : List (Method σ) :=
  declaration.members.filterMap (Member.method? declaration.owner)

/-- The fields of both scopes. -/
def fields (declaration : Declaration σ) : List (Field σ) :=
  declaration.members.filterMap (Member.field? declaration.owner)

/-- The same class with more members. -/
def extend (declaration : Declaration σ) (further : List (Member σ)) : Declaration σ :=
  { declaration with members := declaration.members ++ further }

/-- This declaration of the class counts: it was the last to be registered under this name. -/
abbrev IsCurrent (declarations : List (Declaration σ)) (className : String) :
    Declaration σ → Prop :=
  IsLatest (fun declaration => declaration.owner.className = className) declarations

variable {declarations : List (Declaration σ)} {className : String}

theorem latest?_eq_some_iff {current : Declaration σ} :
    latest? declarations className = some current ↔ IsCurrent declarations className current :=
  reverse_find?_eq_some_iff_isLatest

theorem latest?_eq_none_iff :
    latest? declarations className = none ↔
      ∀ declaration ∈ declarations, declaration.owner.className ≠ className := by
  simp [latest?]

/-- A class that gets more members is current where it was, and so is every other class. -/
theorem IsCurrent.extend {before after : List (Declaration σ)} {declaration current : Declaration σ}
    (isCurrent : IsCurrent (before ++ declaration :: after) className current)
    (further : List (Member σ)) :
    IsCurrent (before ++ declaration.extend further :: after) className current ∨
      current = declaration ∧
        IsCurrent (before ++ declaration.extend further :: after) className
          (declaration.extend further) := by
  simp only [← latest?_eq_some_iff, latest?, List.reverse_append, List.reverse_cons,
    List.find?_append] at isCurrent ⊢
  cases later : after.reverse.find? fun declaration => declaration.owner.className = className with
  | some last =>
      rw [later] at isCurrent
      exact .inl (by simpa using isCurrent)
  | none =>
      by_cases named : declaration.owner.className = className
      · have same : declaration = current := by simpa [later, named] using isCurrent
        exact .inr ⟨same.symm, by simp [Declaration.extend, named]⟩
      · refine .inl ?_
        simpa [later, named, Declaration.extend] using isCurrent

theorem constructors_extend (declaration : Declaration σ) (further : List (Member σ)) :
    (declaration.extend further).constructors =
      declaration.constructors ++ further.filterMap (Member.constructor? declaration.owner) :=
  List.filterMap_append

theorem methods_extend (declaration : Declaration σ) (further : List (Member σ)) :
    (declaration.extend further).methods =
      declaration.methods ++ further.filterMap (Member.method? declaration.owner) :=
  List.filterMap_append

theorem fields_extend (declaration : Declaration σ) {further : List (Member σ)}
    (noFields : ∀ member ∈ further, member.field? declaration.owner = none) :
    (declaration.extend further).fields = declaration.fields := by
  have nothing : further.filterMap (Member.field? declaration.owner) = [] :=
    List.filterMap_eq_nil_iff.mpr noFields
  have split : (declaration.extend further).fields =
      declaration.fields ++ further.filterMap (Member.field? declaration.owner) :=
    List.filterMap_append
  rw [split, nothing, List.append_nil]

end Declaration

/-- The methods as a table that has under each name its overloads, in their order. -/
def Method.grouped (methods : List (Method σ)) : Association String (List (Method σ)) :=
  methods.foldl
    (fun groups method =>
      groups.set method.name ((groups.find? method.name).getD [] ++ [method])) {}

/-- The grouping by name keeps the order. -/
theorem Method.find?_grouped (methods : List (Method σ)) (name : String) :
    ((grouped methods).find? name).getD [] = methods.filter fun method => method.name = name := by
  induction methods using List.reverseRecOn with
  | nil => rfl
  | append_singleton methods method ih =>
      have step : grouped (methods ++ [method]) =
          (grouped methods).set method.name
            (((grouped methods).find? method.name).getD [] ++ [method]) := by
        simp [grouped]
      rw [step, Association.find?_set, List.filter_append, ← ih]
      by_cases same : method.name = name
      · simp [same]
      · simp [same]

namespace Class

theorem fields_ofMembers (owner : Owner) (members : List (Member σ)) (name : String) :
    (ofMembers owner members).fields.find? name =
      (members.filterMap (Member.field? owner)).reverse.find? fun field => field.name = name := by
  induction members using List.reverseRecOn with
  | nil => rfl
  | append_singleton members member ih =>
      rw [ofMembers_concat, List.filterMap_append, List.reverse_append, List.find?_append, ← ih]
      cases member with
      | constructor types body => rfl
      | method declared types body => rfl
      | field declared type get set =>
          by_cases same : declared = name
          · simp [declare, Member.field?, owner_ofMembers, same]
          · simp [declare, Member.field?, same]
      | staticField declared type initial =>
          by_cases same : declared = name
          · simp [declare, Member.field?, owner_ofMembers, same]
          · simp [declare, Member.field?, same]

end Class

namespace Catalog

/-- Every search looks up the class and then picks a member of it. -/
def search {α : Type} (catalog : Catalog σ) (className : String) (missing : Failure)
    (pick : Class σ → Option α) : Except Failure α := do
  let found ← catalog.findClass className
  match pick found with
  | some member => pure member
  | none => throw missing

theorem findConstructor_eq_search (catalog : Catalog σ) (className : String)
    (types : List ValueType) :
    catalog.findConstructor className types =
      catalog.search className (.constructorNotFound className types) fun found =>
        found.constructors.find? fun constructor => constructor.types = types := by
  unfold findConstructor search
  congr 1
  funext found
  dsimp only
  cases found.constructors.find? fun constructor => constructor.types = types <;> rfl

theorem findMethod_eq_search (catalog : Catalog σ) (className name : String)
    (types : List ValueType) (scope : Scope) :
    catalog.findMethod className name types scope =
      catalog.search className (.methodNotFound className name) fun found =>
        found.methods.find? fun method =>
          method.name = name && method.types = types && method.scope = scope := by
  unfold findMethod search
  congr 1
  funext found
  dsimp only
  cases found.methods.find? fun method =>
    method.name = name && method.types = types && method.scope = scope <;> rfl

theorem findField_eq_search (catalog : Catalog σ) (className name : String) (scope : Scope) :
    catalog.findField className name scope =
      catalog.search className (.fieldNotFound className name) fun found =>
        (found.fields.find? name).filter fun field => field.scope = scope := by
  unfold findField search
  congr 1
  funext found
  dsimp only
  cases (found.fields.find? name).filter fun field => field.scope = scope <;> rfl

/-- The search finds exactly what is described. It fails because of the class exactly if there is no such
class, and otherwise because of the member exactly if nothing fits the description. -/
structure Resolves {α : Type} (search : Except Failure α) (declarations : List (Declaration σ))
    (className : String) (missing : Failure) (fits : Declaration σ → α → Prop) : Prop where
  finds : ∀ member, search = .ok member ↔
    ∃ current, Declaration.IsCurrent declarations className current ∧ fits current member
  unknown : search = .error (.classNotFound className) ↔
    ∀ declaration ∈ declarations, declaration.owner.className ≠ className
  lacks : search = .error missing ↔
    ∃ current, Declaration.IsCurrent declarations className current ∧ ∀ member, ¬ fits current member
  fails : ∀ failure, search = .error failure → failure = .classNotFound className ∨ failure = missing

theorem findClass_ofDeclarations (declarations : List (Declaration σ)) (className : String) :
    (ofDeclarations declarations).findClass className =
      match Declaration.latest? declarations className with
      | some current => .ok current.build
      | none => .error (.classNotFound className) := by
  have known : (ofDeclarations declarations).classes.find? className =
      (Declaration.latest? declarations className).map Declaration.build :=
    find?_ofDeclarations declarations className
  rw [findClass, known]
  cases Declaration.latest? declarations className <;> rfl

theorem search_resolves {α : Type} {declarations : List (Declaration σ)} {className : String}
    {missing : Failure} {fits : Declaration σ → α → Prop} {pick : Class σ → Option α}
    (distinct : missing ≠ .classNotFound className)
    (picks : ∀ (current : Declaration σ) member,
      pick current.build = some member ↔ fits current member) :
    Resolves ((ofDeclarations declarations).search className missing pick) declarations className
      missing fits := by
  rw [search, findClass_ofDeclarations]
  cases latest : Declaration.latest? declarations className with
  | none =>
      have unknown := Declaration.latest?_eq_none_iff.mp latest
      have nobody (current : Declaration σ) :
          ¬ Declaration.IsCurrent declarations className current := by
        rw [← Declaration.latest?_eq_some_iff, latest]
        simp
      refine ⟨?_, ?_, ?_, ?_⟩
      · intro member
        simp [bind, Except.bind, nobody]
      · exact ⟨fun _ => unknown, fun _ => rfl⟩
      · simp [bind, Except.bind, nobody, distinct.symm]
      · intro failure failed
        cases failed
        exact .inl rfl
  | some current =>
      have isCurrent := Declaration.latest?_eq_some_iff.mp latest
      have only (other : Declaration σ) :
          Declaration.IsCurrent declarations className other ↔ current = other := by
        rw [← Declaration.latest?_eq_some_iff, latest, Option.some.injEq]
      have known : ¬ ∀ declaration ∈ declarations, declaration.owner.className ≠ className := by
        rw [← Declaration.latest?_eq_none_iff, latest]
        simp
      simp only [bind, Except.bind]
      cases picked : pick current.build with
      | some member =>
          have fitting := (picks current member).mp picked
          refine ⟨?_, ?_, ?_, ?_⟩
          · intro other
            simp only [only, exists_eq_left', ← picks, picked, pure, Except.pure, Except.ok.injEq,
              Option.some.injEq]
          · simp [known, pure, Except.pure]
          · simp only [only, exists_eq_left', pure, Except.pure, reduceCtorEq, false_iff]
            exact fun nothing => nothing member fitting
          · intro failure failed
            cases failed
      | none =>
          refine ⟨?_, ?_, ?_, ?_⟩
          · intro other
            simp [only, ← picks, picked, throw, throwThe, MonadExceptOf.throw]
          · simpa [known, throw, throwThe, MonadExceptOf.throw] using distinct
          · simp [only, ← picks, picked, throw, throwThe, MonadExceptOf.throw]
          · intro failure failed
            cases failed
            exact .inr rfl

variable (declarations : List (Declaration σ)) (className name : String) (types : List ValueType)
  (scope : Scope)

theorem findConstructor_resolves :
    Resolves ((ofDeclarations declarations).findConstructor className types) declarations className
      (.constructorNotFound className types) fun current =>
        IsEarliest (fun constructor => constructor.types = types) current.constructors := by
  rw [findConstructor_eq_search]
  apply search_resolves
  · simp
  · intro current constructor
    rw [Declaration.build, Class.constructors_ofMembers]
    exact find?_eq_some_iff_isEarliest

theorem findMethod_resolves :
    Resolves ((ofDeclarations declarations).findMethod className name types scope) declarations
      className (.methodNotFound className name) fun current =>
        IsEarliest
          (fun method => method.name = name ∧ method.types = types ∧ method.scope = scope)
          current.methods := by
  rw [findMethod_eq_search]
  apply search_resolves
  · simp
  · intro current method
    rw [Declaration.build, Class.methods_ofMembers, ← find?_eq_some_iff_isEarliest]
    simp only [Bool.decide_and, Bool.and_assoc]
    rfl

theorem findField_resolves :
    Resolves ((ofDeclarations declarations).findField className name scope) declarations className
      (.fieldNotFound className name) fun current field =>
        IsLatest (fun field => field.name = name) current.fields field ∧ field.scope = scope := by
  rw [findField_eq_search]
  apply search_resolves
  · simp
  · intro current field
    rw [Declaration.build, Class.fields_ofMembers, Option.filter_eq_some_iff, decide_eq_true_iff]
    exact and_congr_left fun _ => reverse_find?_eq_some_iff_isLatest

/-- Searching only among the methods of the name gives the same. -/
theorem findMethod_eq_grouped (catalog : Catalog σ) :
    catalog.findMethod className name types scope =
      catalog.search className (.methodNotFound className name) fun found =>
        ((Method.grouped found.methods).find? name).bind fun overloads =>
          overloads.find? fun method => method.types = types && method.scope = scope := by
  rw [findMethod_eq_search]
  congr 1
  funext found
  have overloads := Method.find?_grouped found.methods name
  cases group : (Method.grouped found.methods).find? name with
  | none =>
      rw [group, Option.getD_none] at overloads
      rw [Option.bind_none, List.find?_eq_none]
      intro method member
      have other := List.filter_eq_nil_iff.mp overloads.symm method member
      simp_all
  | some methods =>
      rw [group, Option.getD_some] at overloads
      rw [Option.bind_some, overloads, List.find?_filter]
      simp [Bool.and_assoc]

/-- What was found before a class got more members is still found if it fits the class as it is now. -/
theorem Resolves.kept {α : Type} {search grown : Except Failure α} {className : String}
    {missing : Failure} {fits : Declaration σ → α → Prop} {before after : List (Declaration σ)}
    {declaration : Declaration σ} {further : List (Member σ)}
    (resolves : Resolves search (before ++ declaration :: after) className missing fits)
    (resolvesGrown : Resolves grown (before ++ declaration.extend further :: after) className missing
      fits)
    (grows : ∀ member, fits declaration member → fits (declaration.extend further) member)
    {member : α} (found : search = .ok member) : grown = .ok member := by
  obtain ⟨current, isCurrent, fitting⟩ := (resolves.finds member).mp found
  apply (resolvesGrown.finds member).mpr
  rcases isCurrent.extend further with same | ⟨rfl, extended⟩
  · exact ⟨current, same, fitting⟩
  · exact ⟨_, extended, grows member fitting⟩

/-- Of the class registered last under a name, the earliest constructor or method that matches exactly is
found, and the latest field. Members that are added later hide no constructor and no method. -/
theorem resolution_follows_declarations :
    let catalog := ofDeclarations declarations
    Resolves (catalog.findConstructor className types) declarations className
      (.constructorNotFound className types) (fun current =>
        IsEarliest (fun constructor => constructor.types = types) current.constructors) ∧
    Resolves (catalog.findMethod className name types scope) declarations className
      (.methodNotFound className name) (fun current =>
        IsEarliest
          (fun method => method.name = name ∧ method.types = types ∧ method.scope = scope)
          current.methods) ∧
    Resolves (catalog.findField className name scope) declarations className
      (.fieldNotFound className name) (fun current field =>
        IsLatest (fun field => field.name = name) current.fields field ∧ field.scope = scope) ∧
    catalog.findMethod className name types scope =
      catalog.search className (.methodNotFound className name) (fun found =>
        ((Method.grouped found.methods).find? name).bind fun overloads =>
          overloads.find? fun method => method.types = types && method.scope = scope) ∧
    ∀ before declaration after further, declarations = before ++ declaration :: after →
      let grown := ofDeclarations (before ++ declaration.extend further :: after)
      (∀ constructor, catalog.findConstructor className types = .ok constructor →
        grown.findConstructor className types = .ok constructor) ∧
      (∀ method, catalog.findMethod className name types scope = .ok method →
        grown.findMethod className name types scope = .ok method) ∧
      ((∀ member ∈ further, member.field? declaration.owner = none) →
        ∀ field, catalog.findField className name scope = .ok field →
          grown.findField className name scope = .ok field) := by
  intro catalog
  refine ⟨findConstructor_resolves declarations className types,
    findMethod_resolves declarations className name types scope,
    findField_resolves declarations className name scope,
    findMethod_eq_grouped className name types scope catalog, ?_⟩
  rintro before declaration after further rfl grown
  refine ⟨?_, ?_, ?_⟩
  · intro constructor found
    refine (findConstructor_resolves _ className types).kept (findConstructor_resolves _ className types)
      ?_ found
    intro member earliest
    rw [Declaration.constructors_extend]
    exact earliest.append _
  · intro method found
    refine (findMethod_resolves _ className name types scope).kept
      (findMethod_resolves _ className name types scope) ?_ found
    intro member earliest
    rw [Declaration.methods_extend]
    exact earliest.append _
  · intro noFields field found
    refine (findField_resolves _ className name scope).kept
      (findField_resolves _ className name scope) ?_ found
    intro member latest
    rw [Declaration.fields_extend declaration noFields]
    exact latest

/-- A class is registered twice, has two constructors with the same types, a method of either scope under
one name and a field that replaces a static one. It gets another constructor and another method with types
that are there already, and nothing of this is found. -/
theorem resolution_follows_declarations_overloaded :
    let owner : Owner := ⟨"demo.Cell", "Cell"⟩
    let build (number : Nat) : Member Nat := .constructor [.i32] fun _ => .ok number
    let tell (number : Int32) : MethodBody Nat := .static fun _ => .ok (.i32 number)
    let look : MethodBody Nat := .object fun state _ => (state, .ok .null)
    let get (_ : Nat) : Value := .null
    let set (state : Nat) (_ : Value) : Nat × Except BodyFailure Unit := (state, .ok ())
    let older : Declaration Nat := ⟨owner, [build 0]⟩
    let declaration : Declaration Nat :=
      ⟨owner, [build 1, build 2, .method "get" [] look, .method "get" [] (tell 3),
        .staticField "value" .str .null, .field "value" .i32 get set]⟩
    let further : List (Member Nat) := [build 4, .method "get" [] (tell 5)]
    let catalog := ofDeclarations [older, declaration]
    let grown := ofDeclarations [older, declaration.extend further]
    let constructor : Constructor Nat := ⟨owner, [.i32], fun _ => .ok 1⟩
    let method : Method Nat := ⟨owner, "get", [], tell 3⟩
    let field : Field Nat := ⟨owner, "value", .i32, .object get set⟩
    (catalog.findConstructor "demo.Cell" [.i32] = .ok constructor ∧
        catalog.findMethod "demo.Cell" "get" [] .static = .ok method ∧
        catalog.findField "demo.Cell" "value" .object = .ok field) ∧
      (∀ member ∈ further, member.field? owner = none) ∧
      grown.findConstructor "demo.Cell" [.i32] = .ok constructor ∧
      grown.findMethod "demo.Cell" "get" [] .static = .ok method ∧
      grown.findField "demo.Cell" "value" .object = .ok field := by
  intro owner build tell look get set older declaration further catalog grown constructor method field
  have found : catalog.findConstructor "demo.Cell" [.i32] = .ok constructor ∧
      catalog.findMethod "demo.Cell" "get" [] .static = .ok method ∧
      catalog.findField "demo.Cell" "value" .object = .ok field := ⟨rfl, rfl, rfl⟩
  have noFields : ∀ member ∈ further, member.field? owner = none := by
    simp [further, build, Member.field?]
  have kept (name : String) (types : List ValueType) (scope : Scope) :=
    (resolution_follows_declarations [older, declaration] "demo.Cell" name types scope).2.2.2.2
      [older] declaration [] further rfl
  exact ⟨found, noFields, (kept "" [.i32] .static).1 constructor found.1,
    (kept "get" [] .static).2.1 method found.2.1,
    (kept "value" [] .object).2.2 noFields field found.2.2⟩

end Catalog

end RemoteObjects
