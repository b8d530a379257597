import Mathlib.Data.List.DropRight
import RoleSchema.Proofs.Settings.Drafts
import RoleSchema.Report.Markup
import RoleSchema.Settings.Load

/-!
# What is in the way of loading

Settings are loaded from files whose contents may be anything, in an environment that may have any
name and any variables. Loading should end with settings, or with a fault of the settings
themselves. It does so exactly if nothing is in its way from one stage to the next: the files are
looked up, the documents of the base file are merged, the document for the environment is merged
into them, the variables are applied, and the whole is read.

* `Legible`: a file whose documents are values, or whose notation is at fault.
* `Loads`: nothing is in the way of loading.
* `endsAsExpected_load_iff`: then, and only then, loading ends as it should.
-/

namespace RoleSchema

open Files (Path Store)

namespace Settings

variable {α β : Type} {store : Store} {vars : Variables} {given : Option Path}
  {environment home : String} {path : Path} {paths : List Path}

/-! ## Files -/

/-- A file whose documents can be read, or cannot because its notation is at fault. -/
def Legible (store : Store) (path : Path) : Prop :=
  ∀ fault, documentsAt store path = .error fault →
    ∃ f, fault = .unparsed path f ∧ f.isOfNotation = true

theorem expected_documentsAt (h : Legible store path) :
    Expected (Reporting.ofExcept (documentsAt store path)) := by
  intro fault hfault
  obtain ⟨f, rfl, hf⟩ := h fault hfault
  exact hf

/-- However a file is written, its mappings bind each key once. -/
theorem proper_documentsAt {ds : Yaml.Documents} (h : documentsAt store path = .ok ds) :
    ds.Proper := by
  unfold documentsAt at h
  obtain ⟨bytes, -, h⟩ := bind_eq_ok_iff.mp h
  exact Yaml.proper_documents (mapError_eq_ok_iff.mp h)

/-- It can be told whether there is something at a path. -/
def Answers (store : Store) (path : Path) : Prop := ∃ found, isThere store path = .ok found

theorem expected_isThere_iff :
    Expected (Reporting.ofExcept (isThere store path)) ↔ Answers store path := by
  unfold Answers isThere
  cases store.pathExists path with
  | ok found => exact iff_of_true (expected_of_ok rfl) ⟨found, rfl⟩
  | error fault =>
    exact iff_of_false (not_expected_of_error rfl rfl) nofun

/-! ## Looking for files -/

/-- Looking through some paths comes to one of them, if those before it are passed over. -/
def Reaches (passes : Path → Prop) (paths : List Path) (path : Path) : Prop :=
  ∃ before after, paths = before ++ path :: after ∧ ∀ p ∈ before, passes p

/-- Each path that is come to can be looked up. -/
def Searchable (store : Store) (passes : Path → Prop) (paths : List Path) : Prop :=
  ∀ path, Reaches passes paths path → Answers store path

theorem reaches_cons_iff {passes : Path → Prop} {first : Path} :
    Reaches passes (first :: paths) path ↔
      path = first ∨ passes first ∧ Reaches passes paths path := by
  constructor
  · rintro ⟨before, after, hpaths, hbefore⟩
    cases before with
    | nil => exact .inl (List.cons.inj hpaths).1.symm
    | cons p before =>
      obtain ⟨rfl, rfl⟩ := List.cons.inj hpaths
      obtain ⟨hp, hbefore⟩ := List.forall_mem_cons.mp hbefore
      exact .inr ⟨hp, before, after, rfl, hbefore⟩
  · rintro (rfl | ⟨hfirst, before, after, rfl, hbefore⟩)
    · exact ⟨[], paths, rfl, fun _ hp => absurd hp List.not_mem_nil⟩
    · exact ⟨first :: before, after, rfl, List.forall_mem_cons.mpr ⟨hfirst, hbefore⟩⟩

theorem searchable_nil {passes : Path → Prop} : Searchable store passes [] := by
  rintro path ⟨before, after, hpaths, -⟩
  cases before <;> cases hpaths

theorem searchable_cons_iff {passes : Path → Prop} :
    Searchable store passes (path :: paths) ↔
      Answers store path ∧ (passes path → Searchable store passes paths) := by
  simp only [Searchable, reaches_cons_iff, or_imp, forall_and, forall_eq]
  exact and_congr_right fun _ =>
    ⟨fun h hpasses q hq => h q ⟨hpasses, hq⟩, fun h q ⟨hpasses, hq⟩ => h hpasses q hq⟩

/-- Nothing is at a path. -/
def Vacant (store : Store) (path : Path) : Prop := isThere store path = .ok false

theorem expected_firstThere_iff : Expected (Reporting.ofExcept (firstThere store paths)) ↔
    Searchable store (Vacant store) paths := by
  induction paths with
  | nil => exact iff_of_true (expected_of_ok rfl) searchable_nil
  | cons path rest ih =>
    unfold firstThere
    rw [searchable_cons_iff, expected_ofExcept_bind_iff, expected_isThere_iff, ← ih]
    refine and_congr_right fun _ => ⟨fun hall hvacant => hall false hvacant, ?_⟩
    intro h found hfound
    cases found with
    | true => exact expected_of_ok rfl
    | false => exact h hfound

/-! ## The base file -/

/-- The home directory, if there is one, is not told from itself. -/
def HomeTold (vars : Variables) : Prop :=
  ∀ home, vars.lookup "HOME" = some home → home.toList.head? ≠ some '~'

theorem head?_rdropWhile_slash {cs : List Char} :
    (cs.rdropWhile (· = '/')).head? = some '~' ↔ cs.head? = some '~' := by
  obtain ⟨slashes, hcs⟩ := List.rdropWhile_prefix (fun c => decide (c = '/')) (l := cs)
  constructor
  · intro h
    obtain ⟨rest, hrest⟩ := List.head?_eq_some_iff.mp h
    rw [← hcs, hrest]
    rfl
  · intro h
    obtain ⟨rest, rfl⟩ := List.head?_eq_some_iff.mp h
    cases hkept : List.rdropWhile (fun c => decide (c = '/')) ('~' :: rest) with
    | nil =>
      have hslash := List.rdropWhile_eq_nil_iff.mp hkept '~' (List.mem_cons_self ..)
      exact absurd hslash (by decide)
    | cons c kept =>
      rw [hkept] at hcs
      rw [(List.cons.inj hcs).1]
      rfl

theorem expected_homeDirectory_iff : Expected (Reporting.ofExcept (homeDirectory home)) ↔
    home.toList.head? ≠ some '~' := by
  have hhead : ((home.toList.reverse.dropWhile (· = '/')).reverse).head? = some '~' ↔
      home.toList.head? = some '~' := head?_rdropWhile_slash
  refine Iff.trans ?_ (not_congr hhead)
  unfold homeDirectory
  dsimp only
  split
  · next htilde =>
    exact iff_of_false (not_expected_of_error rfl rfl) (not_not_intro htilde)
  · next hno =>
    refine iff_of_true ?_ hno
    split
    · exact expected_of_ok rfl
    · exact expected_of_ok rfl

theorem expected_basePaths_iff :
    Expected (Reporting.ofExcept (basePaths vars)) ↔ HomeTold vars := by
  unfold basePaths HomeTold
  dsimp only
  split
  · next hnone =>
    refine iff_of_true (expected_of_ok rfl) fun home hhome => ?_
    rw [hnone] at hhome
    cases hhome
  · next home hhome =>
    rw [expected_ofExcept_bind_iff, and_iff_left fun _ _ => expected_of_ok rfl,
      expected_homeDirectory_iff, hhome]
    exact ⟨fun h _ heq => Option.some.inj heq ▸ h, fun h => h home rfl⟩

/-- Nothing is in the way of looking for the base file: that which is given can be looked up, or
else the home directory is told and those that are sought can be. -/
structure Sought (store : Store) (vars : Variables) (given : Option Path) : Prop where
  atGiven : ∀ path, given = some path → Answers store path
  atHome : given = none → HomeTold vars
  search : given = none → ∀ paths, basePaths vars = .ok paths →
    Searchable store (Vacant store) paths

/-- That a given base file is missing is expected; that it cannot even be looked up is not. -/
theorem expected_basePath_iff :
    Expected (Reporting.ofExcept (basePath store vars given)) ↔ Sought store vars given := by
  unfold basePath
  cases given with
  | none =>
    rw [expected_ofExcept_bind_iff, expected_basePaths_iff]
    simp only [expected_firstThere_iff]
    exact ⟨fun ⟨hhome, hsearch⟩ => ⟨nofun, fun _ => hhome, fun _ => hsearch⟩,
      fun h => ⟨h.atHome rfl, h.search rfl⟩⟩
  | some path =>
    have hmissing : ∀ found, isThere store path = .ok found → Expected (Reporting.ofExcept
        (if found then return some path else throw (.missing path))) := by
      rintro (_ | _) -
      · exact expected_of_error rfl rfl
      · exact expected_of_ok rfl
    rw [expected_ofExcept_bind_iff, expected_isThere_iff, and_iff_left hmissing]
    refine ⟨fun h => ⟨fun path' hpath => ?_, nofun, nofun⟩, fun h => h.atGiven path rfl⟩
    exact Option.some.inj hpath ▸ h

/-- Of the base file, only its documents can be in the way once it is found. -/
theorem expected_loadBase_iff
    (h : ∀ path, basePath store vars given = .ok (some path) → Legible store path) :
    Expected (loadBase store vars given) ↔ Sought store vars given ∧
      ∀ path ds, basePath store vars given = .ok (some path) → documentsAt store path = .ok ds →
        Draft.BaseFits ds := by
  unfold loadBase
  rw [expected_bind_iff, expected_basePath_iff, Reporting.result_ofExcept]
  refine and_congr_right fun _ => ?_
  have hstep : ∀ path, basePath store vars given = .ok (some path) → (Expected (do
      tell (lineMark ++ "Loading base config: " ++ path.text)
      Draft.base path (← Reporting.ofExcept (documentsAt store path))) ↔
        ∀ ds, documentsAt store path = .ok ds → Draft.BaseFits ds) := by
    intro path hpath
    have hread := expected_documentsAt (h path hpath)
    rw [expected_bind_of_ok rfl, expected_bind_iff, and_iff_right hread]
    exact forall₂_congr fun ds hds => Draft.expected_base_iff (proper_documentsAt hds)
  constructor
  · intro hall path ds hpath
    exact (hstep path hpath).mp (hall (some path) hpath) ds
  · intro hall found hfound
    cases found with
    | none => exact expected_of_ok rfl
    | some path => exact (hstep path hfound).mpr fun ds => hall path ds hfound

/-! ## The document for the environment -/

/-- Documents the first of which, if there is one, says nothing. -/
def SaysNothing (ds : Yaml.Documents) : Prop := ∀ d, Draft.first? ds = some d → d.isEmpty = true

/-- A path is passed over in looking for the document for the environment. -/
def Passed (store : Store) (path : Path) : Prop :=
  Vacant store path ∨
    isThere store path = .ok true ∧ ∃ ds, documentsAt store path = .ok ds ∧ SaysNothing ds

theorem result_loadEnvironment_of_passed (h : Passed store path) :
    (loadEnvironment store environment (path :: paths)).result =
      (loadEnvironment store environment paths).result := by
  rcases h with hvacant | ⟨hthere, ds, hds, hnothing⟩
  · exact Reporting.result_bind_of_ok (x := Reporting.ofExcept (isThere store path)) hvacant _
  · have hfilter : ((Draft.first? ds).filter fun d => !d.isEmpty) = none :=
      Option.filter_eq_none_iff.mpr fun d hd => by simp [hnothing d hd]
    rw [loadEnvironment, Reporting.result_bind_of_ok hthere, if_pos rfl,
      Reporting.result_bind_of_ok rfl, Reporting.result_bind_of_ok hds, hfilter]
    exact Reporting.result_bind_of_ok rfl _

theorem result_loadEnvironment_of_said {ds : Yaml.Documents} {d : Draft}
    (hthere : isThere store path = .ok true) (hds : documentsAt store path = .ok ds)
    (hfirst : Draft.first? ds = some d) (htells : d.isEmpty = false) :
    (loadEnvironment store environment (path :: paths)).result = .ok (some d) := by
  have hfilter : ((Draft.first? ds).filter fun d => !d.isEmpty) = some d := by
    rw [hfirst, Option.filter_some, htells]
    rfl
  rw [loadEnvironment, Reporting.result_bind_of_ok hthere, if_pos rfl,
    Reporting.result_bind_of_ok rfl, Reporting.result_bind_of_ok hds, hfilter]
  rfl

theorem result_loadEnvironment_of_unread {fault : LoadFault}
    (hthere : isThere store path = .ok true) (hds : documentsAt store path = .error fault) :
    (loadEnvironment store environment (path :: paths)).result = .error fault := by
  rw [loadEnvironment, Reporting.result_bind_of_ok hthere, if_pos rfl,
    Reporting.result_bind_of_ok rfl]
  exact Reporting.result_bind_eq_error_iff.mpr (.inl hds)

/-- A path is passed over, or it has a document that says something, or it cannot be read. -/
theorem passed_or (h : Answers store path) : Passed store path ∨
    isThere store path = .ok true ∧
      ((∃ ds d, documentsAt store path = .ok ds ∧ Draft.first? ds = some d ∧ d.isEmpty = false) ∨
        ∃ fault, documentsAt store path = .error fault) := by
  obtain ⟨found, hfound⟩ := h
  cases found with
  | false => exact .inl (.inl hfound)
  | true =>
    cases hds : documentsAt store path with
    | error fault => exact .inr ⟨hfound, .inr ⟨fault, rfl⟩⟩
    | ok ds =>
      by_cases hnothing : SaysNothing ds
      · exact .inl (.inr ⟨hfound, ds, hds, hnothing⟩)
      · simp only [SaysNothing, not_forall, Bool.not_eq_true] at hnothing
        obtain ⟨d, hd, htells⟩ := hnothing
        exact .inr ⟨hfound, .inl ⟨ds, d, rfl, hd, htells⟩⟩

/-- Looking for the document for the environment, only a path that cannot be looked up is in the
way. What the document is does not matter yet. -/
theorem expected_loadEnvironment_iff
    (h : ∀ path ∈ paths, isThere store path = .ok true → Legible store path) :
    Expected (loadEnvironment store environment paths) ↔ Searchable store (Passed store) paths := by
  induction paths with
  | nil => exact iff_of_true (expected_of_ok rfl) searchable_nil
  | cons path rest ih =>
    obtain ⟨hlegible, hrest⟩ := List.forall_mem_cons.mp h
    have hpassed : Passed store path →
        (Expected (loadEnvironment store environment (path :: rest)) ↔
          Expected (loadEnvironment store environment rest)) := by
      intro hp
      unfold Expected
      rw [result_loadEnvironment_of_passed hp]
    rw [searchable_cons_iff, ← ih hrest]
    constructor
    · intro hexpected
      refine ⟨?_, fun hp => (hpassed hp).mp hexpected⟩
      unfold loadEnvironment at hexpected
      exact expected_isThere_iff.mp (expected_bind_iff.mp hexpected).1
    · rintro ⟨hanswers, hothers⟩
      rcases passed_or hanswers with hp | ⟨hthere, ⟨ds, d, hds, hfirst, htells⟩ | ⟨fault, hds⟩⟩
      · exact (hpassed hp).mpr (hothers hp)
      · exact expected_of_ok (result_loadEnvironment_of_said hthere hds hfirst htells)
      · obtain ⟨f, rfl, hf⟩ := hlegible hthere fault hds
        exact expected_of_error (result_loadEnvironment_of_unread hthere hds) hf

theorem proper_loadEnvironment {d : Draft}
    (h : (loadEnvironment store environment paths).result = .ok (some d)) : d.Proper := by
  induction paths with
  | nil => cases h
  | cons path rest ih =>
    have hanswers : Answers store path := by
      unfold loadEnvironment at h
      obtain ⟨found, hfound, -⟩ := Reporting.result_bind_eq_ok_iff.mp h
      exact ⟨found, hfound⟩
    rcases passed_or hanswers with hp | ⟨hthere, ⟨ds, d', hds, hfirst, htells⟩ | ⟨fault, hds⟩⟩
    · exact ih ((result_loadEnvironment_of_passed hp).symm.trans h)
    · cases (result_loadEnvironment_of_said hthere hds hfirst htells).symm.trans h
      exact Draft.proper_first? (proper_documentsAt hds) hfirst
    · cases (result_loadEnvironment_of_unread hthere hds).symm.trans h

/-! ## Loading -/

/-- Nothing is in the way of loading. The base file is found, and its documents are merged. Then the
document for the environment is found and merged into them, the sections that variables lead to are
open, and the whole is read. -/
structure Loads (store : Store) (vars : Variables) (given : Option Path) (environment : String) :
    Prop where
  sought : Sought store vars given
  base : ∀ path ds, basePath store vars given = .ok (some path) →
    documentsAt store path = .ok ds → Draft.BaseFits ds
  search : (loadBase store vars given).Returns →
    Searchable store (Passed store) (environmentPaths given environment)
  layers : ∀ base document, (loadBase store vars given).result = .ok base →
    (loadEnvironment store environment (environmentPaths given environment)).result =
      .ok document → base.Fits document vars

/-- Loading meets only expected faults exactly if nothing is in its way. -/
theorem expected_load_iff
    (hbase : ∀ path, basePath store vars given = .ok (some path) → Legible store path)
    (henvironment : ∀ path ∈ environmentPaths given environment,
      isThere store path = .ok true → Legible store path) :
    Expected (load store vars given environment) ↔ Loads store vars given environment := by
  have hlayers : ∀ (base : Draft) (document : Option Draft),
      (loadEnvironment store environment (environmentPaths given environment)).result =
        .ok document →
          (Expected (base.layered store.codecs document vars) ↔ base.Fits document vars) := by
    intro base document hdocument
    refine Draft.expected_layered_iff fun d hd => ?_
    subst hd
    exact proper_loadEnvironment hdocument
  unfold load
  rw [expected_bind_iff, expected_loadBase_iff hbase]
  simp only [expected_bind_iff, expected_loadEnvironment_iff henvironment]
  constructor
  · rintro ⟨⟨hsought, hdocuments⟩, hall⟩
    refine ⟨hsought, hdocuments, fun ⟨base, hbase⟩ => (hall base hbase).1, ?_⟩
    intro base document hbase hdocument
    exact (hlayers base document hdocument).mp ((hall base hbase).2 document hdocument)
  · rintro ⟨hsought, hdocuments, hsearch, hfits⟩
    refine ⟨⟨hsought, hdocuments⟩, fun base hbase => ⟨hsearch ⟨base, hbase⟩, ?_⟩⟩
    intro document hdocument
    exact (hlayers base document hdocument).mpr (hfits base document hbase hdocument)

/-- Loading ends as it should: with settings, or because the settings themselves are at fault. The
lines that it tells, unless it is quiet, can be shown. -/
structure EndsAsExpected (quiet : Bool) (loading : Reporting LoadFault Settings) : Prop where
  ends : (∃ settings, loading.result = .ok settings) ∨
    ∃ fault, loading.result = .error fault ∧ fault.isExpected = true
  shown : quiet = false → ∀ e ∈ loading.events, Markup.fault? e.text = none

theorem expected_iff_exists {x : Reporting LoadFault α} : Expected x ↔
    (∃ a, x.result = .ok a) ∨ ∃ fault, x.result = .error fault ∧ fault.isExpected = true := by
  cases hx : x.result with
  | ok a => exact iff_of_true (expected_of_ok hx) (.inl ⟨a, rfl⟩)
  | error fault =>
    rw [expected_iff_of_error hx]
    refine ⟨fun h => .inr ⟨fault, rfl, h⟩, ?_⟩
    rintro (⟨a, ha⟩ | ⟨fault', hfault, h⟩)
    · cases ha
    · cases hfault
      exact h

/-- **Loading ends as it should** exactly if nothing is in its way and the lines that it tells can
be shown. The files may hold any documents, or text whose notation is at fault. -/
theorem endsAsExpected_load_iff {quiet : Bool}
    (hbase : ∀ path, basePath store vars given = .ok (some path) → Legible store path)
    (henvironment : ∀ path ∈ environmentPaths given environment,
      isThere store path = .ok true → Legible store path) :
    EndsAsExpected quiet (load store vars given environment) ↔
      Loads store vars given environment ∧ (quiet = false →
        ∀ e ∈ (load store vars given environment).events, Markup.fault? e.text = none) := by
  rw [← expected_load_iff hbase henvironment, expected_iff_exists]
  exact ⟨fun h => ⟨h.ends, h.shown⟩, fun h => ⟨h.1, h.2⟩⟩

theorem legible_of_isSome (h : (documentsAt store path).toOption.isSome = true) :
    Legible store path := by
  intro fault hfault
  rw [hfault] at h
  cases h

end Settings

namespace Studios

open Settings

/-- A store with the base file of a studio and a file for tests. -/
def store (tests : String) : Store where
  directories := [["environments"]]
  files := [(["studio.yaml"], "\"generator\":\n  \"encoding\": \"utf-8\"\n".toUTF8.toList),
    (["environments", "test.yaml"], tests.toUTF8.toList)]

/-- The base file. -/
def given : Option Path := some { parts := ["studio.yaml"] }

/-- A variable for the output directory. -/
def vars : Variables := [("ORMREL_GENERATOR_OUTPUT_DIR", "out")]

/-- A file for tests with a remark only. -/
def remark : String := "# Nothing yet\n"

/-- A file for tests with a list. -/
def list : String := "- \"generator\"\n"

/-- The base file is legible, whatever the file for tests holds. -/
theorem legible_base {tests : String} {path : Path}
    (hread : (basePath (store tests) vars given).toOption = some given ∧
      (documentsAt (store tests) { parts := ["studio.yaml"] }).toOption.isSome = true)
    (h : basePath (store tests) vars given = .ok (some path)) : Legible (store tests) path := by
  rw [h] at hread
  cases hread.1
  exact legible_of_isSome hread.2

/-- The files for the environment are legible, where they are there. -/
theorem legible_environment {tests : String}
    (hread : ∀ path ∈ environmentPaths given "test",
      (isThere (store tests) path).toOption = some true →
        (documentsAt (store tests) path).toOption.isSome = true) :
    ∀ path ∈ environmentPaths given "test", isThere (store tests) path = .ok true →
      Legible (store tests) path := by
  intro path hpath hthere
  exact legible_of_isSome (hread path hpath (by rw [hthere]; rfl))

set_option maxRecDepth 100000 in
/-- A remark for tests is passed over, and the variable sets the output directory: nothing is in the
way of loading. -/
theorem load_ends_on_remark :
    (∀ path, basePath (store remark) vars given = .ok (some path) →
        Legible (store remark) path) ∧
      (∀ path ∈ environmentPaths given "test", isThere (store remark) path = .ok true →
        Legible (store remark) path) ∧
      ((load (store remark) vars given "test").result.mapError LoadFault.message).map
        (fun s => s.generator.outputDir.text) = .ok "out" ∧
      Loads (store remark) vars given "test" := by
  have hbase : ∀ path, basePath (store remark) vars given = .ok (some path) →
      Legible (store remark) path := fun path => legible_base (by decide +kernel)
  have henvironment : ∀ path ∈ environmentPaths given "test",
      isThere (store remark) path = .ok true → Legible (store remark) path :=
    legible_environment (by decide +kernel)
  have hload : ((load (store remark) vars given "test").result.mapError LoadFault.message).map
      (fun s => s.generator.outputDir.text) = .ok "out" := by decide +kernel
  refine ⟨hbase, henvironment, hload, ?_⟩
  obtain ⟨settings, hsettings, -⟩ := map_eq_ok_iff.mp hload
  have hends : EndsAsExpected true (load (store remark) vars given "test") :=
    ⟨.inl ⟨settings, mapError_eq_ok_iff.mp hsettings⟩, nofun⟩
  exact ((endsAsExpected_load_iff hbase henvironment).mp hends).1

set_option maxRecDepth 100000 in
/-- A list for tests breaks loading off, though it is as legible as the base file. -/
theorem load_breaks_on_list :
    (∀ path, basePath (store list) vars given = .ok (some path) → Legible (store list) path) ∧
      (∀ path ∈ environmentPaths given "test", isThere (store list) path = .ok true →
        Legible (store list) path) ∧
      (load (store list) vars given "test").result.mapError LoadFault.message =
        .error "'list' object has no attribute 'items'" ∧
      ∀ quiet, ¬ EndsAsExpected quiet (load (store list) vars given "test") := by
  have hload : ((load (store list) vars given "test").result.mapError
      (fun f => (f.message, f.isExpected))).map (fun _ => ()) =
        .error ("'list' object has no attribute 'items'", false) := by decide +kernel
  obtain ⟨fault, hfault, hmessage⟩ := mapError_eq_error_iff.mp (map_eq_error_iff.mp hload)
  obtain ⟨hmessage, hunexpected⟩ := Prod.mk.inj hmessage
  refine ⟨fun path => legible_base (by decide +kernel), legible_environment (by decide +kernel),
    mapError_eq_error_iff.mpr ⟨fault, hfault, hmessage⟩, ?_⟩
  rintro quiet ⟨⟨settings, hsettings⟩ | ⟨fault', hfault', hexpected⟩, -⟩
  · cases hfault.symm.trans hsettings
  · cases hfault.symm.trans hfault'
    rw [hunexpected] at hexpected
    cases hexpected

end Studios

end RoleSchema
