import DocSite.Proofs.Json.PartAcceptance
import DocSite.Site.Sidebar

/-!
# Which texts are sidebars

The format of a sidebar is told on values as they are written, whatever text a value has. A text is
read as a sidebar if and only if it is one value of this format.
-/

namespace DocSite.Sidebar

open Json

/-! ## The format -/

/-- The parts of a link that are read. -/
inductive Field
  | title
  | file
  | description
  | subsections
  deriving DecidableEq

namespace Field

/-- The fields in the order in which a list gives their values. -/
def all : List Field := [title, file, description, subsections]

/-- The name of the member for a field. -/
def name : Field → Text
  | title => "title"
  | file => "file"
  | description => "description"
  | subsections => "subsections"

/-- Whether a field must not be left out. -/
def isNeeded : Field → Bool
  | title | file => true
  | description | subsections => false

/-- A field may have a certain value. -/
def Admits (isSidebar : Tree → Prop) : Field → Tree → Prop
  | title, value | file, value => value.IsText
  | description, value => value = .null ∨ value.IsText
  | subsections, value => value = .null ∨ isSidebar value

end Field

/-- The values of the members that have a certain name. -/
def valuesOf (name : Text) (members : List (List Mark × Tree)) : List Tree :=
  (members.filter fun member => textOf? member.1 == some name).map Prod.snd

/-- The members of an object for a link: each field comes once at most, whatever else there is. -/
def AreLinkMembers (isSidebar : Tree → Prop) (members : List (List Mark × Tree)) : Prop :=
  (∀ member ∈ members, (textOf? member.1).isSome) ∧
    ∀ field : Field, (valuesOf field.name members = [] ∧ field.isNeeded = false) ∨
      ∃ value, valuesOf field.name members = [value] ∧ field.Admits isSidebar value

/-- The values of some fields in their order, of which the last ones may be left out. -/
def AreLinkItems (isSidebar : Tree → Prop) : List Field → List Tree → Prop
  | fields, [] => ∀ field ∈ fields, field.isNeeded = false
  | [], _ :: _ => False
  | field :: fields, item :: items =>
    field.Admits isSidebar item ∧ AreLinkItems isSidebar fields items

mutual

/-- An object of links, in which objects and lists nest to a certain depth at most. -/
def IsSidebar (orLists : Bool) : (depth : Nat) → Tree → Prop
  | depth + 1, .object members =>
    ∀ member ∈ members, (textOf? member.1).isSome ∧ IsLink orLists depth member.2
  | _, _ => False

/-- A link, which is written as an object of its fields, or perhaps as a list of their values. -/
def IsLink (orLists : Bool) : (depth : Nat) → Tree → Prop
  | depth + 1, .object members => AreLinkMembers (IsSidebar orLists depth) members
  | depth + 1, .list items => orLists ∧ AreLinkItems (IsSidebar orLists depth) Field.all items
  | _, _ => False

end

/-! ## Links as objects only -/

theorem AreLinkMembers.mono {isSidebar isOther : Tree → Prop}
    (wider : ∀ tree, isSidebar tree → isOther tree) {members : List (List Mark × Tree)}
    (areMembers : AreLinkMembers isSidebar members) : AreLinkMembers isOther members := by
  refine ⟨areMembers.1, fun field => (areMembers.2 field).imp_right ?_⟩
  rintro ⟨value, only, admits⟩
  refine ⟨value, only, ?_⟩
  cases field with
  | subsections => exact admits.imp_right (wider value)
  | _ => exact admits

theorem isLink_and_isSidebar_of_objects (depth : Nat) :
    (∀ tree, IsSidebar false depth tree → IsSidebar true depth tree) ∧
      ∀ tree, IsLink false depth tree → IsLink true depth tree := by
  induction depth with
  | zero => exact ⟨fun _ => id, fun _ => id⟩
  | succ depth induction =>
      obtain ⟨sidebars, links⟩ := induction
      constructor
      · intro tree isSidebar
        cases tree with
        | object members =>
            exact fun member isMember =>
              (isSidebar member isMember).imp_right (links member.2)
        | _ => exact isSidebar
      · intro tree isLink
        cases tree with
        | object members => exact AreLinkMembers.mono sidebars isLink
        | list items => exact (Bool.false_ne_true isLink.1).elim
        | _ => exact isLink

/-! ## Members one after the other -/

section Members

variable {isSidebar : Tree → Prop} {seen : Field → Bool} {name : Text} {marks : List Mark}
  {tree : Tree} {members : List (List Mark × Tree)}

/-- The members of an object for a link from one on, where some fields have come before. -/
def Completes (isSidebar : Tree → Prop) (seen : Field → Bool)
    (members : List (List Mark × Tree)) : Prop :=
  (∀ member ∈ members, (textOf? member.1).isSome) ∧
    ∀ field : Field, (valuesOf field.name members = [] ∧ (field.isNeeded → seen field)) ∨
      ∃ value, valuesOf field.name members = [value] ∧ seen field = false ∧
        field.Admits isSidebar value

theorem completes_start_iff :
    Completes isSidebar (fun _ => false) members ↔ AreLinkMembers isSidebar members := by
  simp [Completes, AreLinkMembers]

theorem completes_nil_iff : Completes isSidebar seen [] ↔ ∀ field, field.isNeeded → seen field := by
  simp [Completes, valuesOf]

theorem Field.name_inj {field other : Field} : field.name = other.name ↔ field = other := by
  cases field <;> cases other <;> decide

theorem valuesOf_cons_of_eq (known : textOf? marks = some name) :
    valuesOf name ((marks, tree) :: members) = tree :: valuesOf name members := by
  simp [valuesOf, known]

theorem valuesOf_cons_of_ne {other : Text} (known : textOf? marks = some name)
    (differ : name ≠ other) :
    valuesOf other ((marks, tree) :: members) = valuesOf other members := by
  simp [valuesOf, known, differ]

theorem completes_cons_other_iff (known : textOf? marks = some name)
    (isOther : ∀ field : Field, name ≠ field.name) :
    Completes isSidebar seen ((marks, tree) :: members) ↔ Completes isSidebar seen members := by
  unfold Completes
  simp only [valuesOf_cons_of_ne known (isOther _), List.forall_mem_cons, known, Option.isSome_some,
    true_and]

theorem completes_cons_field_iff {field : Field} (known : textOf? marks = some field.name) :
    Completes isSidebar seen ((marks, tree) :: members) ↔
      seen field = false ∧ field.Admits isSidebar tree ∧
        Completes isSidebar (fun other => other == field || seen other) members := by
  have others (other : Field) (differ : other ≠ field) :
      valuesOf other.name ((marks, tree) :: members) = valuesOf other.name members :=
    valuesOf_cons_of_ne known fun same => differ (Field.name_inj.mp same).symm
  have own : valuesOf field.name ((marks, tree) :: members) = tree :: valuesOf field.name members :=
    valuesOf_cons_of_eq known
  unfold Completes
  rw [List.forall_mem_cons, known, and_iff_right Option.isSome_some]
  constructor
  · rintro ⟨named, fields⟩
    obtain ⟨none, -⟩ | ⟨value, only, fresh, admits⟩ := fields field
    · rw [own] at none
      nomatch none
    · rw [own] at only
      obtain ⟨rfl, none⟩ := List.cons.inj only
      refine ⟨fresh, admits, named, fun other => ?_⟩
      by_cases differ : other = field
      · subst differ
        exact .inl ⟨none, by simp⟩
      · have kept := fields other
        rw [others other differ] at kept
        simpa [differ] using kept
  · rintro ⟨fresh, admits, named, fields⟩
    refine ⟨named, fun other => ?_⟩
    by_cases differ : other = field
    · subst differ
      obtain ⟨none, -⟩ | ⟨_, _, unseen, -⟩ := fields other
      · exact .inr ⟨tree, by rw [own, none], fresh, admits⟩
      · simp at unseen
    · rw [others other differ]
      simpa [differ] using fields other

end Members

end DocSite.Sidebar
