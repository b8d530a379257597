import RoleSchema.Proofs.Population.Uniqueness
import RoleSchema.Proofs.Relation.Labelling
import Mathlib.Data.List.Perm.Basic

/-!
# The roles behind the columns of a relation

However a relation comes of a fact type, its key consists of the roles of a uniqueness constraint
that the fact type lists, and its value of roles that this constraint leaves out. No role has two
columns, and every role has one exactly if the value consists of all roles that are left out. That
is so for the relations of a reference mode and for a relation of the name of its fact type. The
relation of a named role has one value column, whatever else its key leaves out.

* `Model.DrawnFrom`: the columns of a relation and the constraint that they come from.
* `DrawnFrom.covers_iff`: every role has a column if as many are left out as the value has columns.
* `columns_of_relations`: all relations of a fact type.
-/

namespace RoleSchema

open RoleSchema.Rel (Predicate Clause)

/-- A relation of a fact type has its key from the uniqueness constraint `u`, and its value from the
roles that `u` leaves out. -/
structure Model.DrawnFrom (m : Model) (f : FactType) (p : Predicate) (u : UniquenessConstraint) :
    Prop where
  listed : p.uniqueness ∈ f.uniquenessIds
  found : m.uniquenessById p.uniqueness = some u
  key : p.key = u.roleIds
  value : ∀ role ∈ p.value, role ∈ f.roleIds ∧ role ∉ p.key
  nodup : p.roleIds.Nodup

/-- The relations of a fact type are those of its named roles. -/
def Model.IsNamedByRoles (m : Model) (f : FactType) : Prop :=
  m.matchReferenceMode f = .ok none ∧ f.hasNamedRoles = true

/-- The roles that a constraint spans and those that it leaves out are all roles. -/
theorem FactType.spanned_append_excluded_perm {f : FactType} {u : UniquenessConstraint}
    (hroles : f.roleIds.Nodup) (hspan : u.roleIds.Nodup) (hwithin : u.roleIds ⊆ f.roleIds) :
    (u.roleIds ++ f.rolesExcludedBy u).Perm f.roleIds := by
  have hspanned : u.roleIds.Perm (f.roleIds.filter u.spans) := by
    refine (List.perm_ext_iff_of_nodup hspan (hroles.filter _)).mpr fun role => ?_
    simp only [List.mem_filter, UniquenessConstraint.spans, List.contains_iff_mem]
    exact ⟨fun h => ⟨hwithin h, h⟩, fun h => h.2⟩
  exact (hspanned.append_right _).trans (List.filter_append_perm _ _)

namespace Model

variable {m : Model} {f : FactType} {p : Predicate} {u : UniquenessConstraint}

/-! ## How many columns a relation has -/

namespace DrawnFrom

theorem within (h : m.DrawnFrom f p u) (hf : m.UniquenessWithin f) :
    u.roleIds.Nodup ∧ u.roleIds ⊆ f.roleIds :=
  hf.of_mem (mem_uniquenessConstraintsOf.mpr ⟨_, h.listed, h.found⟩)

theorem length_roleIds (h : m.DrawnFrom f p u) (hf : m.UniquenessWithin f)
    (hroles : f.roleIds.Nodup) :
    f.roleIds.length = u.roleIds.length + (f.rolesExcludedBy u).length := by
  obtain ⟨hspan, hwithin⟩ := h.within hf
  rw [← (FactType.spanned_append_excluded_perm hroles hspan hwithin).length_eq, List.length_append]

/-- Every role has a column exactly if the value has as many columns as roles are left out. -/
theorem covers_iff (h : m.DrawnFrom f p u) (hf : m.UniquenessWithin f) (hroles : f.roleIds.Nodup) :
    p.roleIds.Perm f.roleIds ↔ p.value.length = (f.rolesExcludedBy u).length := by
  have hlength := h.length_roleIds hf hroles
  have hcolumns : p.roleIds.length = u.roleIds.length + p.value.length := by
    rw [Predicate.roleIds, List.length_append, h.key]
  constructor
  · intro hperm
    have := hperm.length_eq
    omega
  · intro hvalue
    have hsub : p.roleIds ⊆ f.roleIds := by
      refine List.append_subset.mpr ⟨?_, fun role hrole => (h.value role hrole).1⟩
      rw [h.key]
      exact (h.within hf).2
    exact (h.nodup.subperm hsub).perm_of_length_le (by omega)

end DrawnFrom

/-! ## The ways in which a relation comes of a fact type -/

theorem drawnFrom_of_value (hlisted : p.uniqueness ∈ f.uniquenessIds)
    (hfound : m.uniquenessById p.uniqueness = some u) (hkey : p.key = u.roleIds)
    (hspan : u.roleIds.Nodup) (hvalue : p.value.Nodup)
    (hleft : ∀ role ∈ p.value, role ∈ f.rolesExcludedBy u) : m.DrawnFrom f p u where
  listed := hlisted
  found := hfound
  key := hkey
  value := by
    intro role hrole
    rw [hkey]
    exact FactType.mem_rolesExcludedBy.mp (hleft role hrole)
  nodup := by
    rw [Predicate.roleIds, hkey]
    refine List.nodup_append.mpr ⟨hspan, hvalue, fun role hspanned other hother => ?_⟩
    rintro rfl
    exact (FactType.mem_rolesExcludedBy.mp (hleft role hother)).2 hspanned

/-- One role as the key and another as the value. -/
theorem drawnFrom_pair {id a b : Id} (name : String) (hlisted : id ∈ f.uniquenessIds)
    (hfound : m.uniquenessById id = some u) (hspans : u.roleIds = [a]) (hb : b ∈ f.roleIds)
    (hne : b ≠ a) : m.DrawnFrom f ⟨name, id, [a], [b]⟩ u := by
  refine drawnFrom_of_value hlisted hfound hspans.symm ?_ (List.nodup_singleton b) ?_
  · rw [hspans]
    exact List.nodup_singleton a
  · intro role hrole
    obtain rfl := List.mem_singleton.mp hrole
    exact FactType.mem_rolesExcludedBy.mpr ⟨hb, by simpa [hspans] using hne⟩

theorem drawnFrom_mode {r : ReferenceMode} {rel : ReferenceModeRelations}
    (hroles : f.RolesIdentified) (hf : m.UniquenessWithin f) (hr : m.Identifies f r)
    (hrel : m.referenceModeRelations r = .ok rel) (hp : p ∈ [rel.forward, rel.inverse]) :
    (∃ u, m.DrawnFrom f p u) ∧ p.roleIds.Perm f.roleIds := by
  obtain ⟨i, forward, inverse, hi, hforward, hinverse⟩ := relations_of_referenceMode hrel
  obtain ⟨hmem, hlone⟩ := hr.identifierRole_spec hi
  have he : r.entityRole.id ∈ f.roleIds := List.mem_map_of_mem hr.entityRole_mem
  have hi : i.id ∈ f.roleIds := List.mem_map_of_mem hmem
  have hne : r.entityRole.id ≠ i.id := hlone ▸ hr.entityRole_ne
  have htwo : f.roleIds.length = 2 := by simp [FactType.roleIds, hr.twoRoles]
  rcases List.mem_pair.mp hp with rfl | rfl
  · obtain ⟨w, hw, -⟩ := hf _ hr.entityUniqueness_mem
    have hspans : w.roleIds = [r.entityRole.id] := by
      rcases hr.roleIds_entity hw with hspans | ⟨hnone, -⟩
      · exact hspans
      · exact absurd hnone (id_ne_none hroles hr.entityRole_mem)
    rw [hforward]
    exact ⟨⟨w, drawnFrom_pair forward hr.entityUniqueness_mem hw hspans hi hne.symm⟩,
      (perm_pair_of_mem htwo he hi hne).symm⟩
  · obtain ⟨u, hu, -⟩ := hf _ hr.identifier_mem
    have hspans : u.roleIds = [i.id] := by rw [hr.roleIds_identifier hu, hlone]
    rw [hinverse]
    exact ⟨⟨u, drawnFrom_pair inverse hr.identifier_mem hu hspans he hne⟩,
      (perm_pair_of_mem htwo hi he hne.symm).symm⟩

theorem drawnFrom_named (hf : m.UniquenessWithin f)
    (hp : p ∈ f.roles.filterMap (m.namedRelation? f)) :
    ∃ u, m.DrawnFrom f p u ∧ p.value.length = 1 := by
  obtain ⟨r, hr, hp⟩ := List.mem_filterMap.mp hp
  unfold namedRelation? at hp
  split at hp
  · cases hp
  · obtain ⟨u, hu, rfl⟩ := Option.map_eq_some_iff.mp hp
    obtain ⟨hmem, hout⟩ := uniquenessExcludingRole_eq_some hu
    obtain ⟨hlisted, hfound⟩ := uniquenessById_of_mem hmem
    refine ⟨u, drawnFrom_of_value hlisted hfound rfl (hf.of_mem hmem).1 (List.nodup_singleton _) ?_,
      rfl⟩
    intro role hrole
    obtain rfl := List.mem_singleton.mp hrole
    exact FactType.mem_rolesExcludedBy.mpr ⟨List.mem_map_of_mem hr, hout⟩

theorem drawnFrom_whole (hroles : f.roleIds.Nodup) (hf : m.UniquenessWithin f) (name : String)
    (hu : m.uniquenessConstraintsOf f = [u]) :
    m.DrawnFrom f ⟨name, u.id, u.roleIds, f.rolesExcludedBy u⟩ u := by
  have hmem : u ∈ m.uniquenessConstraintsOf f := hu ▸ List.mem_singleton_self u
  obtain ⟨hlisted, hfound⟩ := uniquenessById_of_mem hmem
  exact drawnFrom_of_value hlisted hfound rfl (hf.of_mem hmem).1 (hroles.filter _) fun _ h => h

/-- **The columns of every relation.** Where the roles of a fact type have different ids and each
listed uniqueness constraint is found and spans some of them, none twice, the key of each relation
consists of the roles of a listed constraint, and its value of other roles; no role has two columns.
Every role has a column, except where the relations are those of named roles and the constraint
leaves out further roles. -/
theorem columns_of_relations {relations : List Predicate} {whole : List Clause}
    (hroles : f.RolesIdentified) (hf : m.UniquenessWithin f)
    (h : (m.relationsAndClauses f).result = .ok (relations, whole)) (hp : p ∈ relations) :
    ∃ u, m.DrawnFrom f p u ∧ (p.roleIds.Perm f.roleIds ↔
      (m.IsNamedByRoles f → (f.rolesExcludedBy u).length = 1)) := by
  rcases relationsAndClauses_eq_ok h with ⟨r, rel, hm, hrel, rfl, -⟩ | ⟨hm, hr, -⟩
  · obtain ⟨⟨u, hu⟩, hperm⟩ := drawnFrom_mode hroles hf (identifies_of_match hm) hrel hp
    refine ⟨u, hu, iff_of_true hperm fun hnamed => ?_⟩
    rw [hnamed.1] at hm
    cases hm
  · rw [result_relationsFor] at hr
    split at hr
    · next hnamed =>
      cases hr
      obtain ⟨u, hu, hone⟩ := drawnFrom_named hf hp
      refine ⟨u, hu, ?_⟩
      rw [hu.covers_iff hf hroles.nodup, hone, forall_prop_of_true ⟨hm, hnamed⟩, eq_comm]
    · next hnamed =>
      rcases systemNamedRelations_eq_ok hr with rfl | ⟨u, name, hu, -, rfl⟩
      · cases hp
      · obtain rfl := List.mem_singleton.mp hp
        have hdrawn := drawnFrom_whole hroles.nodup hf name hu
        refine ⟨u, hdrawn, iff_of_true ((hdrawn.covers_iff hf hroles.nodup).mpr rfl) ?_⟩
        intro h
        exact absurd h.2 hnamed

end Model

/-! ## Bookings -/

namespace Bookings

def guest : Role := { id := some "guest", factTypeId := some "booked", playerId := some "person" }

def room : Role :=
  { id := some "room", factTypeId := some "booked", playerId := some "place", name := "room" }

def night : Role := { id := some "night", factTypeId := some "booked", playerId := some "date" }

def price : Role :=
  { id := some "price", factTypeId := some "booked", playerId := some "amount", name := "price" }

/-- Guests book rooms for nights at prices, one room a night. -/
def booked : FactType where
  id := some "booked"
  name := "GuestBooksRoomForNightAtPrice"
  roles := [guest, room, night, price]
  uniquenessIds := [some "one price", some "one room"]

def model : Model where
  objects := [{ id := some "person", name := "Person", kind := .entity },
    { id := some "place", name := "Room", kind := .entity },
    { id := some "date", name := "Date", kind := .value },
    { id := some "amount", name := "Amount", kind := .value }]
  factTypes := [booked]
  uniquenessConstraints :=
    [{ id := some "one price", roleIds := [some "night", some "room", some "guest"] },
      { id := some "one room", roleIds := [some "night", some "guest"] }]

/-- The room of a guest at night, which tells nothing of the price. -/
def roomOf : Predicate := ⟨"room", some "one room", [some "night", some "guest"], [some "room"]⟩

def priceOf : Predicate :=
  ⟨"price", some "one price", [some "night", some "room", some "guest"], [some "price"]⟩

theorem uniquenessWithin : model.UniquenessWithin booked := by
  intro id hid
  rcases List.mem_pair.mp hid with rfl | rfl
  · exact ⟨_, rfl, by decide, by decide⟩
  · exact ⟨_, rfl, by decide, by decide⟩

theorem columns_of_relations_booked :
    booked.RolesIdentified ∧ model.UniquenessWithin booked ∧
      ∃ whole, (model.relationsAndClauses booked).result = .ok ([roomOf, priceOf], whole) ∧
        (∃ u, model.DrawnFrom booked roomOf u ∧ (roomOf.roleIds.Perm booked.roleIds ↔
          (model.IsNamedByRoles booked → (booked.rolesExcludedBy u).length = 1))) ∧
        (∃ u, model.DrawnFrom booked priceOf u ∧ (priceOf.roleIds.Perm booked.roleIds ↔
          (model.IsNamedByRoles booked → (booked.rolesExcludedBy u).length = 1))) ∧
        ¬ roomOf.roleIds.Perm booked.roleIds ∧ priceOf.roleIds.Perm booked.roleIds := by
  have hroles : booked.RolesIdentified := ⟨by decide, by decide⟩
  have h : (model.relationsAndClauses booked).result =
      .ok ([roomOf, priceOf], [roomOf, priceOf].flatMap (model.wholeClausesOf booked)) := rfl
  exact ⟨hroles, uniquenessWithin, _, h,
    Model.columns_of_relations hroles uniquenessWithin h (.head _),
    Model.columns_of_relations hroles uniquenessWithin h (.tail _ (.head _)), by decide, by decide⟩

end Bookings

end RoleSchema
