import EntityStore.Text.Case

/-!
# Relations

A relation leads from the rows of one entity to those of another. It names its target by a key, so
entities can refer to each other before both are registered.
-/

namespace EntityStore

/-- The identity of an entity: its type. Types are told apart by their number `type` alone, since
types that are declared in different places can have one `name`. -/
structure EntityKey where
  type : Nat
  /-- Without the path to the place where the type is declared. -/
  name : String
  deriving Repr

instance : BEq EntityKey := ⟨fun a b => a.type == b.type⟩

namespace EntityKey

theorem beq_iff {a b : EntityKey} : (a == b) = true ↔ a.type = b.type := by
  show (a.type == b.type) = true ↔ a.type = b.type
  exact beq_iff_eq

/-- What stands behind the last `::` of a path, or `found` if there is none. -/
def behindColons (found : List Char) : List Char → List Char
  | [] => found
  | c :: rest =>
    behindColons (if c = ':' ∧ rest.head? = some ':' then rest.drop 1 else found) rest

/-- The key of the type of number `type` that is declared at `path`. -/
def of (type : Nat) (path : String) : EntityKey :=
  ⟨type, String.ofList (behindColons path.toList path.toList)⟩

theorem behindColons_append {name : List Char} (plain : ':' ∉ name) (path found : List Char) :
    behindColons found (path ++ ':' :: ':' :: name) = name := by
  induction path generalizing found with
  | nil =>
    have rest : ∀ cs, ':' ∉ cs → behindColons name cs = name := by
      intro cs
      induction cs with
      | nil => exact fun _ => rfl
      | cons c cs ih =>
        intro plain
        obtain ⟨first, others⟩ := not_or.1 (mt List.mem_cons.2 plain)
        rw [behindColons, if_neg fun colons => first colons.1.symm, ih others]
    have last : name.head? ≠ some ':' := fun colon => plain (List.mem_of_mem_head? colon)
    show behindColons name (':' :: name) = name
    rw [behindColons, if_neg fun colons => last colons.2, rest name plain]
  | cons c path ih => exact ih _

/-- A type that is declared within a `path` goes by its own `name`. -/
theorem name_of (type : Nat) (path : String) {name : String} (plain : ':' ∉ name.toList) :
    (of type (path ++ "::" ++ name)).name = name := by
  have split : (path ++ "::" ++ name).toList = path.toList ++ ':' :: ':' :: name.toList := by
    rw [String.toList_append, String.toList_append, List.append_assoc]
    rfl
  rw [of, split, behindColons_append plain, String.ofList_toList]

/-- The table of an entity that is registered without one: its `name` in lower case. -/
def defaultTable (key : EntityKey) : String := String.ofList (Text.lower key.name.toList)

/-- The target of a relation that has not been settled. -/
def unsettled : EntityKey := .of 0 "()"

end EntityKey

/-- How many rows on either side belong together. -/
inductive RelationKind where
  | manyToOne
  | oneToOne
  | oneToMany
  | manyToMany
  deriving DecidableEq, Repr

def RelationKind.name : RelationKind → String
  | manyToOne => "many-to-one"
  | oneToOne => "one-to-one"
  | oneToMany => "one-to-many"
  | manyToMany => "many-to-many"

/-- The kind that `name` calls `text`. -/
def RelationKind.ofName? (text : String) : Option RelationKind :=
  [manyToOne, oneToOne, oneToMany, manyToMany].find? fun kind => kind.name == text

/-- The column that refers to the target. -/
structure JoinColumn where
  name : Option String := none
  /-- The column of the target that is referred to. -/
  referenced : Option String := none
  deriving DecidableEq, Repr

/-- The table between two sides of a `RelationKind.manyToMany`. -/
structure JoinTable where
  name : Option String := none
  /-- Refers to the owner. -/
  joinColumn : Option String := none
  /-- Refers to the target. -/
  inverseJoinColumn : Option String := none
  deriving DecidableEq, Repr

/-- A relation of an entity. -/
structure Relation where
  property : String
  kind : RelationKind
  target : EntityKey
  /-- The property of the relation that leads back. -/
  inverseSide : Option String := none
  joinColumn : Option JoinColumn := none
  joinTable : Option JoinTable := none
  /-- Whether the target is wanted with every row. -/
  eager : Bool := false
  nullable : Option Bool := none
  deriving Repr

/-- Attributes of a relation to be changed; those that are `none` stay. -/
structure RelationPatch where
  kind : Option RelationKind := none
  target : Option EntityKey := none
  inverseSide : Option String := none
  joinColumn : Option JoinColumn := none
  joinTable : Option JoinTable := none
  eager : Option Bool := none
  nullable : Option Bool := none
  deriving Repr

namespace Relation

/-- A relation of which only the `property` is settled. -/
def placeholder (property : String) : Relation :=
  { property := property, kind := .manyToOne, target := .unsettled }

/-- Change the attributes of `r` that `p` states. -/
def patch (r : Relation) (p : RelationPatch) : Relation where
  property := r.property
  kind := p.kind.getD r.kind
  target := p.target.getD r.target
  inverseSide := p.inverseSide <|> r.inverseSide
  joinColumn := p.joinColumn <|> r.joinColumn
  joinTable := p.joinTable <|> r.joinTable
  eager := p.eager.getD r.eager
  nullable := p.nullable <|> r.nullable

end Relation

end EntityStore
