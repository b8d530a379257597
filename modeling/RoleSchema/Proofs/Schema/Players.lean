import RoleSchema.Proofs.Model.Order
import RoleSchema.Proofs.Relation.RoleOrder
import RoleSchema.Proofs.Schema.Alteration

/-!
# Players that are noted twice

Who plays a role can be noted with the role, which names its player, and with the player, which
lists the role. Where both is done and the two notes say the same, one of them is enough: without
the other, all schemas, findings and lines of a run are as they were.

* `Model.PlayersNotedTwice`: the two notes say the same of every role.
* `PlayersNotedTwice.playerId_unnamed`, `PlayersNotedTwice.playerId_unlisted`: each note tells the
  player.
* `Model.notes_interchangeable`: either note may be left out.
-/

namespace RoleSchema

/-- The fact type, whose roles name no players. -/
def FactType.withoutPlayerIds (f : FactType) : FactType :=
  { f with roles := f.roles.map fun r => { r with playerId := none } }

namespace Model

/-- The model, whose roles name no players. -/
def withoutPlayerIds (m : Model) : Model :=
  { m with factTypes := m.factTypes.map FactType.withoutPlayerIds }

/-- The model, whose object types list no roles. -/
def withoutListings (m : Model) : Model :=
  { m with objects := m.objects.map fun o => { o with playedRoles := [] } }

/-- Every role names as its player the one object type that lists it. The ids of roles are distinct,
those of object types are given, and uniqueness constraints, which can add columns to a relation,
span nothing but roles of fact types. -/
structure PlayersNotedTwice (m : Model) : Prop where
  roles : m.roleIds.Nodup
  given : ∀ o ∈ m.objects, o.id.isGiven = true
  noted : ∀ f ∈ m.factTypes, ∀ r ∈ f.roles, ∃ o ∈ m.objects, r.playerId = o.id ∧
    ∀ o' ∈ m.objects, r.id ∈ o'.playedRoles ↔ o' = o
  uniqueness : ∀ u ∈ m.uniquenessConstraints, ∀ role ∈ u.roleIds, role ∈ m.roleIds

/-! ## As alterations -/

/-- Nothing is moved. -/
def unmoved : Renumbering := ⟨RelEmbedding.refl _, RelEmbedding.refl _, RelEmbedding.refl _⟩

/-- Roles name no players any more. -/
def unnamed : Alteration :=
  { unmoved with named := fun _ => none, listed := ObjectType.playedRoles }

/-- Object types list no roles any more. -/
def unlisted : Alteration :=
  { unmoved with named := Role.playerId, listed := fun _ => [] }

variable {m : Model} {f : FactType} {role : Id}

theorem altered_unnamed (m : Model) : m.altered unnamed = m.withoutPlayerIds := by
  unfold altered withoutPlayerIds
  congr 1
  case e_objects => exact List.map_id' m.objects
  case e_subtypeFacts => exact List.map_id' m.subtypeFacts
  case e_uniquenessConstraints => exact List.map_id' m.uniquenessConstraints
  case e_mandatoryConstraints => exact List.map_id' m.mandatoryConstraints

theorem factType_altered_unlisted (f : FactType) : f.altered unlisted = f := by
  have hroles : f.roles.map (Role.altered unlisted) = f.roles := List.map_id' f.roles
  rw [FactType.altered, hroles]
  rfl

theorem altered_unlisted (m : Model) : m.altered unlisted = m.withoutListings := by
  unfold altered withoutListings
  congr 1
  case e_factTypes =>
    exact (List.map_congr_left fun f _ => factType_altered_unlisted f).trans (List.map_id' _)
  case e_subtypeFacts => exact List.map_id' m.subtypeFacts
  case e_uniquenessConstraints => exact List.map_id' m.uniquenessConstraints
  case e_mandatoryConstraints => exact List.map_id' m.mandatoryConstraints

namespace PlayersNotedTwice

/-! ## Who plays a role -/

/-- A role of a fact type is found by its id, and both notes of its player are. -/
theorem exists_player (h : m.PlayersNotedTwice) (hrole : role ∈ m.roleIds) :
    ∃ r o, m.roleById role = some r ∧ o.id.isGiven = true ∧ r.playerId = o.id ∧
      m.listedPlayer role = some o := by
  obtain ⟨f, hf, hrole⟩ := List.mem_flatMap.mp hrole
  obtain ⟨r, hr, rfl⟩ := List.mem_map.mp hrole
  obtain ⟨o, ho, hplayer, hlists⟩ := h.noted f hf r hr
  refine ⟨r, o, ?_, h.given o ho, hplayer, ?_⟩
  · have hmem : r ∈ m.factTypes.flatMap FactType.roles := List.mem_flatMap.mpr ⟨f, hf, hr⟩
    have hids : ((m.factTypes.flatMap FactType.roles).map Role.id).Nodup := by
      rw [List.map_flatMap]
      exact h.roles
    obtain ⟨r', hr'⟩ : ∃ r', m.roleById r.id = some r' := by
      rw [roleById, ← Option.isSome_iff_exists, List.find?_isSome]
      exact ⟨r, hmem, by simp⟩
    have hid : r'.id = r.id := by simpa using List.find?_some hr'
    rw [hr', List.inj_on_of_nodup_map hids (List.mem_of_find?_eq_some hr') hmem hid]
  · obtain ⟨o', ho'⟩ : ∃ o', m.listedPlayer r.id = some o' := by
      rw [listedPlayer, ← Option.isSome_iff_exists, List.find?_isSome]
      exact ⟨o, ho, by simpa using (hlists o ho).mpr rfl⟩
    have hlisted : r.id ∈ o'.playedRoles := by simpa using List.find?_some ho'
    rw [ho', (hlists o' (List.mem_of_find?_eq_some ho')).mp hlisted]

/-- The object type that lists a role tells its player. -/
theorem playerId_unnamed (h : m.PlayersNotedTwice) (hrole : role ∈ m.roleIds) :
    (m.altered unnamed).playerId role = m.playerId role := by
  obtain ⟨r, o, hr, hgiven, hplayer, ho⟩ := h.exists_player hrole
  have hno : ¬ (unnamed.named r).isGiven = true := Bool.false_ne_true
  have hnamed : r.playerId.isGiven = true := hplayer ▸ hgiven
  rw [playerId_altered, playerId, hr, Option.filter_some, if_neg hno, Option.filter_some,
    if_pos hnamed]
  show (m.listedPlayer role).bind ObjectType.id = r.playerId
  rw [ho, hplayer, Option.bind_some]

/-- The role tells its player. -/
theorem playerId_unlisted (h : m.PlayersNotedTwice) (hrole : role ∈ m.roleIds) :
    (m.altered unlisted).playerId role = m.playerId role := by
  obtain ⟨r, o, hr, hgiven, hplayer, -⟩ := h.exists_player hrole
  have hnamed : r.playerId.isGiven = true := hplayer ▸ hgiven
  have hstill : (unlisted.named r).isGiven = true := hnamed
  rw [playerId_altered, playerId, hr, Option.filter_some, if_pos hstill, Option.filter_some,
    if_pos hnamed]
  rfl

/-- What can become a column is a role of a fact type. -/
theorem mem_roleIds_of_mem_columnRoles (h : m.PlayersNotedTwice) (hf : f ∈ m.factTypes)
    (hrole : role ∈ m.columnRoles f) : role ∈ m.roleIds := by
  rcases List.mem_append.mp hrole with hrole | hrole
  · exact List.mem_flatMap.mpr ⟨f, hf, hrole⟩
  · obtain ⟨u, hu, hrole⟩ := List.mem_flatMap.mp hrole
    obtain ⟨id, -, hu⟩ := mem_uniquenessConstraintsOf.mp hu
    exact h.uniqueness u (uniquenessById_eq_some hu).2.1 role hrole

/-! ## Either note -/

theorem keeps_unnamed (h : m.PlayersNotedTwice) : unnamed.Keeps m where
  players f hf role hrole := h.playerId_unnamed (h.mem_roleIds_of_mem_columnRoles hf hrole)
  distinct f hf g hg hfg := by
    have hids : f.roleIds = g.roleIds := by
      rw [← f.roleIds_altered unnamed, hfg, g.roleIds_altered]
    cases hroles : f.roleIds with
    | nil =>
      -- fact types without roles are left as they are
      have hf : f.roles = [] := List.map_eq_nil_iff.mp hroles
      have hg : g.roles = [] := List.map_eq_nil_iff.mp (hids ▸ hroles)
      obtain ⟨id, name, roles, uniquenessIds, mandatoryIds, order⟩ := f
      obtain ⟨id', name', roles', uniquenessIds', mandatoryIds', order'⟩ := g
      subst hf hg
      exact hfg
    | cons role rest =>
      have hrole : role ∈ f.roleIds := hroles ▸ List.mem_cons_self ..
      exact FactType.eq_of_mem_roleIds h.roles hf hg hrole (hids ▸ hrole)

theorem keeps_unlisted (h : m.PlayersNotedTwice) : unlisted.Keeps m where
  players f hf role hrole := h.playerId_unlisted (h.mem_roleIds_of_mem_columnRoles hf hrole)
  distinct f _ g _ hfg := by
    rwa [factType_altered_unlisted, factType_altered_unlisted] at hfg

/-- The order of the elements makes no difference to what is noted. -/
theorem sorted (h : m.PlayersNotedTwice) : m.sorted.PlayersNotedTwice := by
  have hids : m.sorted.roleIds.Perm m.roleIds := (List.mergeSort_perm ..).flatMap_right _
  exact
    { roles := hids.nodup_iff.mpr h.roles
      given := fun o ho => h.given o (mem_inOrder.mp ho)
      noted := fun f hf r hr => by
        obtain ⟨o, ho, hplayer, hlists⟩ := h.noted f (mem_inOrder.mp hf) r hr
        exact ⟨o, mem_inOrder.mpr ho, hplayer, fun o' ho' => hlists o' (mem_inOrder.mp ho')⟩
      uniqueness := fun u hu role hrole =>
        hids.mem_iff.mpr (h.uniqueness u (mem_inOrder.mp hu) role hrole) }

end PlayersNotedTwice

/-- **Either note of the players may be left out.** Without it a run over the model has the same
schemas, findings and log, whether or not the elements are put in the order of the document first.
-/
theorem notes_interchangeable (h : m.PlayersNotedTwice) (template : String) :
    m.withoutPlayerIds.schemas template = m.schemas template ∧
      m.withoutListings.schemas template = m.schemas template ∧
      m.withoutPlayerIds.sorted.schemas template = m.sorted.schemas template ∧
      m.withoutListings.sorted.schemas template = m.sorted.schemas template := by
  have hsorted := h.sorted
  rw [← altered_unnamed, ← altered_unlisted, sorted_altered, sorted_altered]
  exact ⟨schemas_altered h.keeps_unnamed template, schemas_altered h.keeps_unlisted template,
    schemas_altered hsorted.keeps_unnamed template, schemas_altered hsorted.keeps_unlisted template⟩

end Model

namespace Beehives

def hive : ObjectType :=
  { id := some "hive", name := "Hive", kind := .entity, referenceMode := "Nr",
    preferredIdentifier := some "one hive", playedRoles := [some "has", some "lacks"] }

/-- Hives are numbered. -/
def numbered : FactType where
  id := some "numbered"
  name := "HiveHasHiveNr"
  roles := [{ id := some "has", factTypeId := some "numbered", playerId := some "hive" },
    { id := some "of", factTypeId := some "numbered", playerId := some "number" }]
  uniquenessIds := [some "one number", some "one hive"]
  mandatoryIds := [some "all numbered"]

/-- A hive may have lost its queen. -/
def queenless : FactType where
  id := some "queenless"
  name := "HiveIsQueenless"
  roles := [{ id := some "lacks", factTypeId := some "queenless", playerId := some "hive" },
    { id := some "holds", factTypeId := some "queenless", playerId := some "truth" }]
  uniquenessIds := [some "once"]

def diagram : Diagram where
  id := some "diagram"
  name := "Hive:concept"
  subjectRefs := [some "hive"]
  factTypeRefs := [some "queenless"]

def model : Model where
  objects := [hive,
    { id := some "number", name := "HiveNr", kind := .value, dataType := some "counted",
      playedRoles := [some "of"] },
    { id := some "truth", name := "Queenless", kind := .value, isImplicitBoolean := true,
      playedRoles := [some "holds"] }]
  factTypes := [numbered, queenless]
  uniquenessConstraints := [{ id := some "one number", roleIds := [some "has"] },
    { id := some "one hive", roleIds := [some "of"] },
    { id := some "once", roleIds := [some "lacks"] }]
  mandatoryConstraints := [{ id := some "all numbered", roleIds := [some "has"] }]
  dataTypes := [{ id := some "counted", kind := "UnsignedIntegerNumericDataType" }]
  diagrams := [diagram]

def artifact : Artifact where
  concept := "Hive"
  diagram := "Hive:concept"
  filename := "hive_schema.rel"
  lines := ["", "// Constraints for the 'Hive' concept and its subtypes",
    "ic hive_is_entity(v) \x7b Hive(v) implies Entity(v) \x7d", "",
    "// Constraints for relations modeled by the 'HiveIsQueenless' fact type",
    "ic hive_is_queenless_subset \x7b hive_is_queenless(v) implies Hive(v) \x7d", "",
    "// Constraints for relations modeled by the 'HiveHasHiveNr' fact type",
    "ic nr_to_hive_many_one \x7b function(nr_to_hive) \x7d",
    "ic hive_nr_many_one \x7b function(hive_nr) \x7d",
    "ic hive_nr_types(v1, v2) \x7b hive_nr(v1, v2) implies Hive(v1) and Int(v2) \x7d",
    "ic hive_mandatory_in_hive_nr(v) \x7b Hive(v) implies hive_nr(v, _) \x7d",
    "ic nr_to_hive_types(v1, v2) \x7b nr_to_hive(v1, v2) implies Int(v1) and Hive(v2) \x7d",
    "ic hive_mandatory_in_nr_to_hive(v) \x7b Hive(v) implies nr_to_hive(_, v) \x7d"]

theorem playersNotedTwice : model.PlayersNotedTwice where
  roles := by decide
  given := by decide
  noted := by decide
  uniqueness := by decide

/-- Either note tells the number of a hive and that a hive has lost its queen. Without both, neither
is known. -/
theorem notes_interchangeable_hives :
    model.PlayersNotedTwice ∧ (model.schemas defaultTemplate).result = .ok [artifact] ∧
      (model.withoutPlayerIds.schemas defaultTemplate).result = .ok [artifact] ∧
      (model.withoutListings.schemas defaultTemplate).result = .ok [artifact] ∧
      (model.withoutPlayerIds.withoutListings.schemas defaultTemplate).result ≠ .ok [artifact] := by
  have hrun : (model.schemas defaultTemplate).result = .ok [artifact] := by decide +kernel
  obtain ⟨hids, hlistings, -, -⟩ := Model.notes_interchangeable playersNotedTwice defaultTemplate
  exact ⟨playersNotedTwice, hrun, hids ▸ hrun, hlistings ▸ hrun, by decide +kernel⟩

end Beehives

end RoleSchema
