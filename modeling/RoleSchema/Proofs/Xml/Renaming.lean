import Mathlib.Logic.Function.Basic
import RoleSchema.Proofs.Xml.Insertion

/-!
# Other namespaces

The namespaces of a document are told apart by their URIs and by nothing else. A `Renaming` gives
every namespace another URI, different ones to different namespaces, and a name in no namespace
stays in none. An element that is sought in the new namespace is then found where it was.

* `Element.renamed`: the element with the names of all elements and attributes in it renamed.
* `hasName_renamed`, `isSelected_renamed`: comparisons and steps, the two ways to look for a name.
* `subtree_renamed`: all elements of a document, in their order.
-/

namespace RoleSchema.Xml

/-- Other URIs for namespaces. -/
structure Renaming where
  space : String → String
  injective : Function.Injective space
  /-- The empty namespace, which is none, stays as it is. -/
  none_eq : space "" = ""

/-- The steps with names of a namespace select the elements of exactly these names. A step in the
namespace `*` does not. -/
def IsExact (space : String) : Prop :=
  ∀ (e : Element) (base : String), e.isSelected space base = true ↔ e.name = ⟨space, base⟩

theorem isExact_iff {space : String} : IsExact space ↔ space ≠ "*" := by
  constructor
  · rintro h rfl
    have hname := (h ⟨⟨"", "e"⟩, [], []⟩ "e").mp rfl
    exact absurd (congrArg Name.space hname) (by decide)
  · intro hspace e base
    obtain ⟨⟨space', base'⟩, as, cs⟩ := e
    simp [Element.isSelected, hspace]

namespace Renaming

variable (r : Renaming)

@[simp] theorem space_eq_space_iff {s t : String} : r.space s = r.space t ↔ s = t :=
  r.injective.eq_iff

@[simp] theorem space_eq_empty_iff {s : String} : r.space s = "" ↔ s = "" := by
  rw [← r.none_eq, space_eq_space_iff, r.none_eq]

end Renaming

/-- The name in the new namespace. -/
def Name.renamed (r : Renaming) (n : Name) : Name := ⟨r.space n.space, n.base⟩

namespace Element

mutual

/-- The element with all names in it renamed. -/
def renamed (r : Renaming) : Element → Element
  | ⟨n, as, cs⟩ => ⟨n.renamed r, as.map fun a => (a.1.renamed r, a.2), renamedAll r cs⟩

/-- Elements with all names in them renamed. -/
def renamedAll (r : Renaming) : List Element → List Element
  | [] => []
  | e :: es => e.renamed r :: renamedAll r es

end

variable (r : Renaming)

theorem renamedAll_eq_map (es : List Element) : renamedAll r es = es.map (renamed r) := by
  induction es with
  | nil => rfl
  | cons e es ih => rw [renamedAll, ih, List.map_cons]

@[simp] theorem name_renamed (e : Element) : (e.renamed r).name = e.name.renamed r := by
  cases e
  rw [renamed]

@[simp] theorem children_renamed (e : Element) :
    (e.renamed r).children = e.children.map (renamed r) := by
  cases e
  rw [renamed, renamedAll_eq_map]

theorem attributes_renamed (e : Element) :
    (e.renamed r).attributes = e.attributes.map fun a => (a.1.renamed r, a.2) := by
  cases e
  rw [renamed]

/-! ## Looking for names -/

/-- Attributes in no namespace keep their values. -/
@[simp] theorem attribute?_renamed (e : Element) (base : String) :
    (e.renamed r).attribute? base = e.attribute? base := by
  have htest (a : Name × String) :
      ((a.1.renamed r).space == "" && (a.1.renamed r).base == base) =
        (a.1.space == "" && a.1.base == base) := by
    rw [Bool.eq_iff_iff]
    simp [Name.renamed]
  simp only [attribute?, attributes_renamed, List.find?_map, Function.comp_def, htest,
    Option.map_map]

@[simp] theorem hasName_renamed (e : Element) (space base : String) :
    (e.renamed r).hasName (r.space space) base = e.hasName space base := by
  rw [Bool.eq_iff_iff]
  simp [hasName, Name.renamed]

variable {r} {space : String}

theorem isSelected_renamed (h : IsExact space) (h' : IsExact (r.space space)) (e : Element)
    (base : String) : (e.renamed r).isSelected (r.space space) base = e.isSelected space base := by
  obtain ⟨⟨space', base'⟩, as, cs⟩ := e
  rw [Bool.eq_iff_iff, h', h]
  simp [Name.renamed]

theorem select_renamed (h : IsExact space) (h' : IsExact (r.space space)) (e : Element)
    (base : String) :
    (e.renamed r).select (r.space space) base = (e.select space base).map (renamed r) := by
  simp only [select, children_renamed, List.filter_map, Function.comp_def, isSelected_renamed h h']

theorem selectFirst?_renamed (h : IsExact space) (h' : IsExact (r.space space)) (e : Element)
    (base : String) :
    (e.renamed r).selectFirst? (r.space space) base = (e.selectFirst? space base).map (renamed r) := by
  simp only [selectFirst?, children_renamed, List.find?_map, Function.comp_def,
    isSelected_renamed h h']

/-! ## Elements below -/

mutual

/-- The elements of a document are renamed one by one. -/
theorem subtree_renamed (r : Renaming) : ∀ e : Element,
    (e.renamed r).subtree = e.subtree.map (renamed r)
  | ⟨n, as, cs⟩ => by
    rw [subtree_eq, children_renamed, subtree, List.map_cons, ← renamedAll_eq_map,
      subtrees_renamed r cs]

theorem subtrees_renamed (r : Renaming) : ∀ es : List Element,
    subtrees (renamedAll r es) = (subtrees es).map (renamed r)
  | [] => rfl
  | e :: es => by
    rw [renamedAll, subtrees, subtrees, List.map_append, subtree_renamed r e, subtrees_renamed r es]

end

theorem descendants_renamed (r : Renaming) (e : Element) :
    (e.renamed r).descendants = e.descendants.map (renamed r) := by
  rw [descendants, children_renamed, ← renamedAll_eq_map, subtrees_renamed, descendants]

end Element

end RoleSchema.Xml
