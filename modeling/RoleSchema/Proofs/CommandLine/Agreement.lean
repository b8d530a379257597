import RoleSchema.Proofs.CommandLine.Listing
import RoleSchema.Proofs.Report.Table

/-!
# What the commands show of schemas

The listing of diagrams, the output of schemas and the files are made by three commands. Whenever
the schemas of a document can be built, the output and the files have the same texts and the same
findings. The listing hands the names of diagrams, concepts and files to a table of texts with tags:
it tells what becomes of each diagram exactly if these names are shown as they are.

* `CommandLine.Tells`: the cells of a row, as they are shown, tell what becomes of a diagram.
* `CommandLine.Context.tellsDiagrams_iff`: when the listing tells of every diagram.
* `CommandLine.Context.commands_agree`: the three commands on one document.
* `Halls.commands_agree_halls`: a diagram of each kind.
* `Neighbours.listing_loses_brackets`: names with brackets.
-/

namespace RoleSchema

open Files (Path Store)
open Text (Encoding)

/-- What a row is to show of the output of a diagram. -/
def Prospect.output : Prospect → String
  | .skipped => "skipped"
  | .unresolved => "unresolved"
  | .schema _ filename => filename

namespace CommandLine

/-! ## Rows -/

/-- The cells of a row, as they are shown, tell what becomes of a diagram. -/
structure Tells (m : Model) (template : String) (d : Diagram) (cells : List String) : Prop where
  name : cells[0]? = some d.name
  factTypes : cells[2]? = some (toString (m.factTypesInDiagram d).length)
  /-- The diagram is skipped exactly if it has no schema and nothing is found. -/
  skipped : cells[3]? = some "skipped" ↔
    (m.schemaFor template d).result = .ok none ∧ (m.schemaFor template d).diagnostics = []
  /-- Its concept is not resolved exactly if that is found. -/
  unresolved : cells[3]? = some "unresolved" ↔
    ∃ x ∈ (m.schemaFor template d).diagnostics, x.code = unresolvedCode
  /-- The concept and the file name are those of its schema. -/
  schema : ∀ a, (m.schemaFor template d).result = .ok (some a) →
    cells[1]? = some a.concept ∧ cells[3]? = some a.filename
  /-- A diagram that is neither has a schema. -/
  otherwise : cells[3]? ≠ some "skipped" → cells[3]? ≠ some "unresolved" →
    ∃ a, (m.schemaFor template d).result = .ok (some a)

/-- What a row shows of the output of a diagram that has a schema. -/
def outputOf? (cells : List String) : Option String :=
  cells[3]?.filter fun text => text ≠ "skipped" && text ≠ "unresolved"

/-- The names that a row has of a schema are shown as they are, and the file name does not read like
what is shown where there is no schema. -/
structure ShowsNames (a : Artifact) : Prop where
  concept : Markup.rendered a.concept = .ok a.concept
  filename : Markup.rendered a.filename = .ok a.filename
  not_skipped : a.filename ≠ "skipped"
  not_unresolved : a.filename ≠ "unresolved"

section

variable {m : Model} {template : String} {d : Diagram} {row : ListedDiagram} {cells : List String}

theorem mapM_listingRow (hname : Markup.rendered d.name = .ok d.name)
    (hlists : m.Lists template d row)
    (hschema : ∀ a, (m.schemaFor template d).result = .ok (some a) → ShowsNames a) :
    (listingRow row).mapM Markup.rendered =
      .ok [d.name, conceptCell row.prospect, toString (m.factTypesInDiagram d).length,
        row.prospect.output] := by
  obtain ⟨name, count, p⟩ := row
  obtain ⟨rfl, rfl, hbecomes⟩ := hlists
  have hcount := Markup.rendered_numeral (m.factTypesInDiagram d).length
  have hdash : Markup.rendered "-" = .ok "-" := by decide +kernel
  cases hbecomes with
  | skipped =>
    have hmark : Markup.rendered (Markup.styled "dim" "skipped") = .ok "skipped" := by
      decide +kernel
    simp only [listingRow, conceptCell, outputCell, List.mapM_cons, List.mapM_nil, hname, hdash,
      hcount, hmark]
    rfl
  | unresolved =>
    have hmark : Markup.rendered (Markup.styled "red" "unresolved") = .ok "unresolved" := by
      decide +kernel
    simp only [listingRow, conceptCell, outputCell, List.mapM_cons, List.mapM_nil, hname, hdash,
      hcount, hmark]
    rfl
  | schema a result =>
    have ha := hschema a result
    simp only [listingRow, conceptCell, outputCell, List.mapM_cons, List.mapM_nil, hname, hcount,
      ha.concept, ha.filename]
    rfl

/-- Where the names are shown as they are, the row of a diagram is shown and tells what becomes of
it. -/
theorem exists_tells (hname : Markup.rendered d.name = .ok d.name)
    (hlists : m.Lists template d row)
    (hschema : ∀ a, (m.schemaFor template d).result = .ok (some a) → ShowsNames a) :
    ∃ cells, (listingRow row).mapM Markup.rendered = .ok cells ∧ Tells m template d cells := by
  refine ⟨_, mapM_listingRow hname hlists hschema, ?_⟩
  obtain ⟨-, -, hbecomes⟩ := hlists
  generalize row.prospect = p at hbecomes
  have hskipped : some p.output = some "skipped" ↔ p = .skipped := by
    cases hbecomes with
    | skipped => exact iff_of_true rfl rfl
    | unresolved => exact iff_of_false (by decide) nofun
    | schema a result =>
      exact iff_of_false (fun h => (hschema a result).not_skipped (Option.some.inj h)) nofun
  have hunresolved : some p.output = some "unresolved" ↔ p = .unresolved := by
    cases hbecomes with
    | skipped => exact iff_of_false (by decide) nofun
    | unresolved => exact iff_of_true rfl rfl
    | schema a result =>
      exact iff_of_false (fun h => (hschema a result).not_unresolved (Option.some.inj h)) nofun
  exact
    { name := rfl
      factTypes := rfl
      skipped := hskipped.trans hbecomes.eq_skipped_iff
      unresolved := hunresolved.trans hbecomes.eq_unresolved_iff
      schema := fun a ha => by
        rw [hbecomes.eq_schema_iff.mpr ⟨a, ha, rfl, rfl⟩]
        exact ⟨rfl, rfl⟩
      otherwise := fun hs hu => by
        cases hbecomes with
        | skipped => exact absurd rfl hs
        | unresolved => exact absurd rfl hu
        | schema a result => exact ⟨a, result⟩ }

/-- A row that is shown and tells what becomes of a diagram shows the names as they are. -/
theorem showsNames_of_tells (hlists : m.Lists template d row)
    (hcells : (listingRow row).mapM Markup.rendered = .ok cells) (h : Tells m template d cells) :
    Markup.rendered d.name = .ok d.name ∧
      ∀ a, (m.schemaFor template d).result = .ok (some a) → ShowsNames a := by
  obtain ⟨hname, -, hbecomes⟩ := hlists
  have hrendered := forall₂_of_mapM hcells
  simp only [listingRow, hname, List.forall₂_cons_left_iff, List.forall₂_nil_left_iff] at hrendered
  obtain ⟨name, _, hname, ⟨concept, _, hconcept, ⟨count, _, -, ⟨output, _, houtput, rfl, rfl⟩, rfl⟩,
    rfl⟩, rfl⟩ := hrendered
  refine ⟨Option.some.inj h.name ▸ hname, fun a ha => ?_⟩
  obtain ⟨hrowConcept, hrowOutput⟩ := h.schema a ha
  obtain rfl : concept = a.concept := Option.some.inj hrowConcept
  obtain rfl : output = a.filename := Option.some.inj hrowOutput
  rw [hbecomes.eq_schema_iff.mpr ⟨a, ha, rfl, rfl⟩] at hconcept houtput
  refine ⟨hconcept, houtput, fun hskipped => ?_, fun hunresolved => ?_⟩
  · have hnone := (h.skipped.mp (congrArg some hskipped)).1
    rw [ha] at hnone
    cases hnone
  · have hp := hbecomes.eq_unresolved_iff.mpr (h.unresolved.mp (congrArg some hunresolved))
    rw [hbecomes.eq_schema_iff.mpr ⟨a, ha, rfl, rfl⟩] at hp
    cases hp

end

/-! ## The listing -/

section

variable {m : Model} {template : String} {ds : List Diagram} {rows : List ListedDiagram}
  {shown : List (List String)}

theorem exists_forall₂_tells (hlists : List.Forall₂ (m.Lists template) ds rows)
    (hnames : ∀ d ∈ ds, Markup.rendered d.name = .ok d.name)
    (hschemas : ∀ d ∈ ds, ∀ a, (m.schemaFor template d).result = .ok (some a) → ShowsNames a) :
    ∃ shown, (rows.map listingRow).mapM (·.mapM Markup.rendered) = .ok shown ∧
      List.Forall₂ (Tells m template) ds shown := by
  induction hlists with
  | nil => exact ⟨[], rfl, .nil⟩
  | @cons d row ds rows hrow _ ih =>
    obtain ⟨hname, hnames⟩ := List.forall_mem_cons.mp hnames
    obtain ⟨hschema, hschemas⟩ := List.forall_mem_cons.mp hschemas
    obtain ⟨cells, hcells, htells⟩ := exists_tells hname hrow hschema
    obtain ⟨shown, hshown, hrest⟩ := ih hnames hschemas
    refine ⟨cells :: shown, ?_, .cons htells hrest⟩
    rw [List.map_cons, List.mapM_cons, hcells, hshown]
    rfl

theorem showsNames_of_forall₂ (hlists : List.Forall₂ (m.Lists template) ds rows)
    (hcells : List.Forall₂ (fun row cells => (listingRow row).mapM Markup.rendered = .ok cells)
      rows shown)
    (htells : List.Forall₂ (Tells m template) ds shown) :
    ∀ d ∈ ds, Markup.rendered d.name = .ok d.name ∧
      ∀ a, (m.schemaFor template d).result = .ok (some a) → ShowsNames a := by
  induction hlists generalizing shown with
  | nil => nofun
  | @cons d row ds rows hrow _ ih =>
    obtain _ | ⟨hcell, hcells⟩ := hcells
    obtain _ | ⟨htell, htells⟩ := htells
    exact List.forall_mem_cons.mpr ⟨showsNames_of_tells hrow hcell htell, ih hcells htells⟩

/-- The outputs that are shown for schemas are their file names, in order. -/
theorem outputs_of_forall₂_tells (h : List.Forall₂ (Tells m template) ds shown)
    (hreturns : ∀ d ∈ ds, (m.schemaFor template d).Returns)
    (hschemas : ∀ d ∈ ds, ∀ a, (m.schemaFor template d).result = .ok (some a) → ShowsNames a) :
    shown.filterMap outputOf? = (ds.filterMap (m.artifactOf template)).map Artifact.filename := by
  induction h with
  | nil => rfl
  | @cons d cells ds shown htells _ ih =>
    obtain ⟨⟨o, ho⟩, hreturns⟩ := List.forall_mem_cons.mp hreturns
    have hartifact : m.artifactOf template d = o := Reporting.value_of_ok ho
    obtain ⟨hschema, hschemas⟩ := List.forall_mem_cons.mp hschemas
    have houtput : outputOf? cells = o.map Artifact.filename := by
      unfold outputOf?
      cases o with
      | none =>
        -- a row that shows neither mark would be about a schema
        refine Option.filter_eq_none_iff.mpr fun text htext hother => ?_
        simp only [ne_eq, decide_not, Bool.and_eq_true, Bool.not_eq_true', decide_eq_false_iff_not]
          at hother
        obtain ⟨a, ha⟩ := htells.otherwise (fun hs => hother.1 (Option.some.inj (htext ▸ hs)))
          fun hu => hother.2 (Option.some.inj (htext ▸ hu))
        cases ho.symm.trans ha
      | some a =>
        have hnames := hschema a ho
        rw [(htells.schema a ho).2]
        simp [hnames.not_skipped, hnames.not_unresolved]
    rw [List.filterMap_cons, List.filterMap_cons, houtput, hartifact, ih hreturns hschemas]
    cases o <;> rfl

end

namespace Context

variable {c : Context} {path : Path} {m : Model} {artifacts : List Artifact}

/-- The listing prints a table. As it is shown, its rows tell what becomes of the diagrams, in
order, and the outputs in them are the file names of the schemas. -/
def TellsDiagrams (c : Context) (path : Path) (m : Model) (artifacts : List Artifact) : Prop :=
  ∃ t shown, (c.perform (.diagrams path)).report.result = .ok { printed := [.table t] } ∧
    t.shown = .ok shown ∧
    List.Forall₂ (Tells m c.settings.generator.filenameTemplate) m.diagrams shown.rows ∧
    shown.rows.filterMap outputOf? = artifacts.map Artifact.filename

/-- The names that the listing of a document has are shown as they are, and so is its title in some
way. -/
structure ShowsListing (path : Path) (m : Model) (artifacts : List Artifact) : Prop where
  title : ∃ text, Markup.rendered ("Diagrams in " ++ path.name) = .ok text
  diagrams : ∀ d ∈ m.diagrams, Markup.rendered d.name = .ok d.name
  schemas : ∀ a ∈ artifacts, ShowsNames a

theorem printed_singleton (s : Start) (shown : Shown) (p : Printed) :
    s.printed shown [p] = match s.print shown p with
      | .ok shown => shown
      | .error shown => shown := by
  unfold Start.printed
  rw [List.foldlM_cons]
  cases s.print shown p <;> rfl

theorem printed_of_shown (s : Start) {p q : Printed} (h : p.shown = .ok q) :
    s.printed {} [p] = { printed := [p] } := by
  have hfault : p.fault? = none := by
    unfold Printed.fault?
    rw [h]
  simp [printed_singleton, Start.print, hfault]

theorem eq_of_printed_eq {s : Start} {p q : Printed}
    (h : s.printed {} [p] = { printed := [q] }) : p = q := by
  rw [printed_singleton] at h
  unfold Start.print at h
  split at h
  · next shown hshown =>
    split at hshown
    · cases hshown
    · cases hshown
      exact List.head_eq_of_cons_eq (congrArg Shown.printed h)
  · next shown hshown =>
    split at hshown
    · cases hshown
      cases congrArg Shown.printed h
    · cases hshown

/-- The listing of the diagrams of a model that is read. -/
theorem perform_diagrams_eq_ok {rows : List ListedDiagram}
    (hm : (Source.model (.file path) c.settings.namespaces c.store).result = .ok m)
    (h : m.listing c.settings.generator.filenameTemplate = .ok rows) :
    (c.perform (.diagrams path)).report.result =
      .ok (c.start.printed {} [.table (listingTable path rows)]) := by
  change (c.listDiagrams path).result = _
  unfold listDiagrams
  have hread : ((Source.model (.file path) c.settings.namespaces c.store).mapFault
      GenerationFault.reading).result = .ok m := mapError_eq_ok_iff.mpr hm
  have hlisting : (Reporting.ofExcept ((m.listing c.settings.generator.filenameTemplate).mapError
      fun f => GenerationFault.forming (.template f))).result = .ok rows :=
    Reporting.result_ofExcept_mapError h
  refine Reporting.result_recover_of_ok ?_ _
  rw [Reporting.result_bind_of_ok hread, Reporting.result_bind_of_ok hlisting]
  rfl

/-- The listing tells of every diagram exactly if the names in it are shown as they are. -/
theorem tellsDiagrams_iff
    (hm : (Source.model (.file path) c.settings.namespaces c.store).result = .ok m)
    (h : (m.schemas c.settings.generator.filenameTemplate).result = .ok artifacts) :
    c.TellsDiagrams path m artifacts ↔ ShowsListing path m artifacts := by
  have hreturns := Model.returns_schemas_iff.mp ⟨_, h⟩
  have hartifacts := (Model.schemas_eq_ok h).1
  obtain ⟨rows, hrows, hlists⟩ := Model.exists_listing hreturns
  have hlisted := perform_diagrams_eq_ok hm hrows
  constructor
  · rintro ⟨t, shown, hresult, hshown, htells, -⟩
    obtain rfl : listingTable path rows = t :=
      Printed.table.inj (eq_of_printed_eq (Except.ok.inj (hlisted.symm.trans hresult)))
    obtain ⟨htitle, -, hcells⟩ := Table.shown_eq_ok_iff.mp hshown
    have hnames := showsNames_of_forall₂ hlists
      (List.forall₂_map_left_iff.mp (forall₂_of_mapM hcells)) htells
    refine ⟨⟨_, htitle⟩, fun d hd => (hnames d hd).1, fun a ha => ?_⟩
    rw [hartifacts] at ha
    obtain ⟨d, hd, hartifact⟩ := List.mem_filterMap.mp ha
    refine (hnames d hd).2 a ?_
    rw [(hreturns d hd).result_eq]
    exact congrArg Except.ok hartifact
  · intro hshows
    obtain ⟨title, htitle⟩ := hshows.title
    have hschemas : ∀ d ∈ m.diagrams, ∀ a,
        (m.schemaFor c.settings.generator.filenameTemplate d).result = .ok (some a) →
          ShowsNames a := by
      intro d hd a ha
      refine hshows.schemas a ?_
      rw [hartifacts]
      exact List.mem_filterMap.mpr ⟨d, hd, Reporting.value_of_ok ha⟩
    obtain ⟨shown, hcells, htells⟩ := exists_forall₂_tells hlists hshows.diagrams hschemas
    have hcolumns : (listingTable path rows).columns.mapM Markup.rendered =
        .ok (listingTable path rows).columns := by
      change ["Diagram", "Concept", "Fact types", "Output"].mapM Markup.rendered =
        .ok ["Diagram", "Concept", "Fact types", "Output"]
      decide +kernel
    have hshown : (listingTable path rows).shown =
        .ok ⟨title, (listingTable path rows).columns, shown⟩ :=
      Table.shown_eq_ok_iff.mpr ⟨htitle, hcolumns, hcells⟩
    have hreport : (Printed.table (listingTable path rows)).shown =
        .ok (.table ⟨title, (listingTable path rows).columns, shown⟩) :=
      congrArg (Except.map Printed.table) hshown
    refine ⟨_, _, hlisted.trans (congrArg _ (printed_of_shown _ hreport)), hshown, htells, ?_⟩
    rw [hartifacts]
    exact outputs_of_forall₂_tells htells hreturns hschemas

/-! ## The commands -/

/-- What a command shows once its findings have been reported. -/
def conclusion (c : Context) (strict : Bool) (ds : List Diagnostic) (shown : Shown) : Shown :=
  match c.start.print shown (diagnosticsReport ds) with
  | .error shown => shown
  | .ok shown => if strict && !ds.isEmpty then { shown with ending := .failed } else shown

/-- What a command shows once the schemas that were written and its findings have been reported. -/
def writtenConclusion (c : Context) (path : Path) (strict : Bool) (ds : List Diagnostic)
    (g : Generation) : Shown :=
  match c.start.print {} (writtenReport path g) with
  | .error shown => shown
  | .ok shown => c.conclusion strict ds shown

theorem result_concluded (strict : Bool) (ds : List Diagnostic) (shown : Shown) :
    (c.concluded strict ds shown).result = .ok (c.conclusion strict ds shown) := by
  unfold concluded conclusion
  cases c.start.print shown (diagnosticsReport ds) with
  | error shown => rfl
  | ok shown =>
    simp only
    split <;> rfl

theorem diagnostics_concluded (strict : Bool) (ds : List Diagnostic) (shown : Shown) :
    (c.concluded strict ds shown).diagnostics = [] := by
  unfold concluded
  split
  · rfl
  · split <;> rfl

theorem result_reportWritten (path : Path) (strict : Bool) (ds : List Diagnostic)
    (g : Generation) :
    (c.reportWritten path strict ds g).result = .ok (c.writtenConclusion path strict ds g) := by
  unfold reportWritten writtenConclusion
  cases c.start.print {} (writtenReport path g) with
  | error shown => rfl
  | ok shown => exact result_concluded strict ds shown

theorem diagnostics_reportWritten (path : Path) (strict : Bool) (ds : List Diagnostic)
    (g : Generation) : (c.reportWritten path strict ds g).diagnostics = [] := by
  unfold reportWritten
  split
  · rfl
  · exact diagnostics_concluded strict ds _

/-- The output of schemas that are built, and what is found for it. -/
theorem generateToOutput_eq_ok
    (h : (artifactsOf c.settings c.store path).result = .ok artifacts) (strict : Bool) :
    (c.generateToOutput path strict).result =
        .ok (c.conclusion strict (artifactsOf c.settings c.store path).diagnostics
          { output := textListing artifacts }) ∧
      (c.generateToOutput path strict).diagnostics =
        (artifactsOf c.settings c.store path).diagnostics := by
  have hresult := (Reporting.result_bind_of_ok h fun artifacts =>
    c.concluded strict (artifactsOf c.settings c.store path).diagnostics
      { output := textListing artifacts }).trans (result_concluded strict _ _)
  refine ⟨Reporting.result_recover_of_ok hresult _, ?_⟩
  refine (Reporting.diagnostics_recover_of_ok hresult _).trans ?_
  rw [Reporting.diagnostics_bind_of_ok h, diagnostics_concluded, List.append_nil]

/-- The report of schemas that are written, and what is found for it. -/
theorem generateToFiles_eq_ok {directory : Option Path} {g : Generation}
    (h : (generate c.settings c.store path directory).report.result = .ok g) (strict : Bool) :
    (c.generateToFiles path directory strict).report.result =
        .ok (c.writtenConclusion path strict
          (generate c.settings c.store path directory).report.diagnostics g) ∧
      (c.generateToFiles path directory strict).report.diagnostics =
        (generate c.settings c.store path directory).report.diagnostics := by
  have hresult := (Reporting.result_bind_of_ok h (c.reportWritten path strict
    (generate c.settings c.store path directory).report.diagnostics)).trans
      (result_reportWritten path strict _ g)
  refine ⟨Reporting.result_recover_of_ok hresult _, ?_⟩
  refine (Reporting.diagnostics_recover_of_ok hresult _).trans ?_
  rw [Reporting.diagnostics_bind_of_ok h, diagnostics_reportWritten, List.append_nil]

/-- Writes schemas into a directory, or into that of the settings. -/
def writing (c : Context) (directory : Option Path) (artifacts : List Artifact) :
    Stored GenerationFault (List Path) :=
  writeArtifacts c.settings.generator.encoding.encoding
    (directory.getD c.settings.generator.outputDir) c.store artifacts

/-- What three commands do with a document whose model has schemas. -/
structure CommandsAgree (c : Context) (path : Path) (m : Model) (artifacts : List Artifact) :
    Prop where
  /-- The listing prints a row about each diagram, in order, and the file names that it has are those
  of the schemas. -/
  listed : ∃ rows, (c.perform (.diagrams path)).report.result =
        .ok (c.start.printed {} [.table (listingTable path rows)]) ∧
      List.Forall₂ (m.Lists c.settings.generator.filenameTemplate) m.diagrams rows ∧
      rows.filterMap (fun row => row.prospect.filename?) = artifacts.map Artifact.filename
  /-- The output has each schema after a line with its file name, and then the findings are
  reported. -/
  output : ∀ directory strict, (c.perform (.generate path directory true strict)).report.result =
    .ok (c.conclusion strict (m.schemas c.settings.generator.filenameTemplate).diagnostics
      { output := String.join (artifacts.map fun a => "// " ++ a.filename ++ "\n" ++ a.text) })
  /-- The schemas that are written are those of the output. -/
  files : ∀ directory strict, (c.perform (.generate path directory false strict)).store =
    (c.writing directory artifacts).store
  /-- After a run that ends, each file holds the text of the last schema that has its place. -/
  texts : ∀ directory strict written before a after,
    (c.writing directory artifacts).report.result = .ok written →
    artifacts = before ++ a :: after →
    (∀ b ∈ after,
      c.store.placeOf (directory.getD c.settings.generator.outputDir / a.filename) ≠
        c.store.placeOf (directory.getD c.settings.generator.outputDir / b.filename)) →
    ∃ bytes, c.settings.generator.encoding.encoding.encode a.text = .ok bytes ∧
      (c.perform (.generate path directory false strict)).store.file?
        (c.store.placeOf (directory.getD c.settings.generator.outputDir / a.filename)) = some bytes
  /-- Once they are written, they are reported, and then the findings as after the output. -/
  report : ∀ directory strict written,
    (c.writing directory artifacts).report.result = .ok written →
    (c.perform (.generate path directory false strict)).report.result =
      .ok (c.writtenConclusion path strict
        (m.schemas c.settings.generator.filenameTemplate).diagnostics ⟨artifacts, written⟩)
  /-- The output and the files come with the findings of the generator. -/
  findings : ∀ directory strict,
    (c.perform (.generate path directory true strict)).report.diagnostics =
        (m.schemas c.settings.generator.filenameTemplate).diagnostics ∧
      ∀ written, (c.writing directory artifacts).report.result = .ok written →
        (c.perform (.generate path directory false strict)).report.diagnostics =
          (m.schemas c.settings.generator.filenameTemplate).diagnostics

/-- **What the commands show.** Whenever the schemas of the model of a document can be built, the
output and the files are made of the same texts with the same findings; and the listing of its
diagrams tells of them exactly if the names in it are shown as they are. -/
theorem commands_agree
    (hm : (Source.model (.file path) c.settings.namespaces c.store).result = .ok m)
    (h : (m.schemas c.settings.generator.filenameTemplate).result = .ok artifacts) :
    c.CommandsAgree path m artifacts ∧
      (c.TellsDiagrams path m artifacts ↔ ShowsListing path m artifacts) := by
  refine ⟨?_, tellsDiagrams_iff hm h⟩
  obtain ⟨hartifacts, hfindings⟩ := artifactsOf_eq_ok hm h
  have hfiles (directory : Option Path) (strict : Bool) :
      (c.perform (.generate path directory false strict)).store =
        (c.writing directory artifacts).store := (generate_of_artifactsOf hartifacts).1
  refine ⟨?_, fun directory strict => ?_, hfiles, ?_, ?_, fun directory strict => ⟨?_, ?_⟩⟩
  · obtain ⟨rows, hrows, hlists⟩ := Model.exists_listing (Model.returns_schemas_iff.mp ⟨_, h⟩)
    refine ⟨rows, perform_diagrams_eq_ok hm hrows, hlists, ?_⟩
    rw [Model.filenames_of_lists hlists, (Model.schemas_eq_ok h).1]
  · rw [← hfindings]
    exact (generateToOutput_eq_ok hartifacts strict).1
  · rintro directory strict written before a after hwritten rfl hafter
    rw [hfiles]
    exact text_of_writeArtifacts hwritten hafter
  · intro directory strict written hwritten
    obtain ⟨hresult, hfound⟩ := (generate_of_artifactsOf hartifacts).2 written hwritten
    rw [← hfindings, ← hfound]
    exact (generateToFiles_eq_ok hresult strict).1
  · rw [← hfindings]
    exact (generateToOutput_eq_ok hartifacts strict).2
  · intro written hwritten
    obtain ⟨hresult, hfound⟩ := (generate_of_artifactsOf hartifacts).2 written hwritten
    rw [← hfindings, ← hfound]
    exact (generateToFiles_eq_ok hresult strict).2

end Context

end CommandLine

/-! ## Halls -/

namespace Halls

open CommandLine

/-- A document with a hall and three diagrams: about nothing, about rooms, which there are none, and
about the hall. -/
def document : List UInt8 :=
  let pieces := ["<o:ORMModel xmlns:o='http://schemas.neumont.edu", "/ORM/2006-04/ORMCore'",
    " xmlns:d='http://schemas.neumont.edu", "/ORM/2006-04/ORMDiagram'><o:Objects>",
    "<o:EntityType id='hall' Name='Hall'/></o:Objects><d:ORMDiagram Name='Overview'/>",
    "<d:ORMDiagram Name='Room:concept'/><d:ORMDiagram Name='Hall:concept'><d:Shapes><d:FactShape>",
    "<d:Subject ref='hall'/></d:FactShape></d:Shapes></d:ORMDiagram></o:ORMModel>"]
  pieces.flatMap fun piece => piece.toList.map fun c => UInt8.ofNat c.toNat

/-- What the commands find: a store that has only the document, and settings by default. -/
def context : Context where
  start := { arguments := [], vars := [], store := {}, now := ⟨⟨2024, 1, 1⟩, 0, 0, 0, 0, none⟩
             runtime := "3" }
  globals := ⟨none, "development", false, none, false⟩
  settings := {}
  log := {}
  store := { files := [(["model"], document)] }

/-- The model of the document. -/
def model : Model where
  objects := [{ id := some "hall", name := "Hall", kind := .entity }]
  diagrams := [{ id := some "", name := "Overview" },
    { id := some "", name := "Room:concept", order := 1 },
    { id := some "", name := "Hall:concept", subjectRefs := [some "hall"], order := 2 }]

/-- The schema of the hall. -/
def hall : Artifact where
  concept := "Hall"
  diagram := "Hall:concept"
  filename := "hall_schema.rel"
  lines := ["", "// Constraints for the 'Hall' concept and its subtypes",
    "ic hall_is_entity(v) \x7b Hall(v) implies Entity(v) \x7d"]

set_option maxRecDepth 100000 in
/-- One diagram is skipped, one has a concept that is not resolved, and the schema of the third is in
the output and in its file; the listing tells of each. -/
theorem commands_agree_halls :
    context.CommandsAgree (Path.ofText "model") model [hall] ∧
      context.TellsDiagrams (Path.ofText "model") model [hall] ∧
      model.listing defaultTemplate = .ok [⟨"Overview", 0, .skipped⟩,
        ⟨"Room:concept", 0, .unresolved⟩, ⟨"Hall:concept", 0, .schema "Hall" "hall_schema.rel"⟩] ∧
      ∃ bytes, Encoding.utf8.encode hall.text = .ok bytes ∧
        (context.perform (.generate (Path.ofText "model") (some (Path.ofText "out")) false
          true)).store.file? ["out", "hall_schema.rel"] = some bytes := by
  have hmodel : (Source.model (.file (Path.ofText "model")) {} context.store).result = .ok model := by
    decide +kernel
  have hschemas : (model.schemas defaultTemplate).result = .ok [hall] := by decide +kernel
  have hwritten : (context.writing (some (Path.ofText "out")) [hall]).report.result =
      .ok [Path.ofText "out" / "hall_schema.rel"] := by decide +kernel
  have hshows : Context.ShowsListing (Path.ofText "model") model [hall] :=
    { title := ⟨"Diagrams in model", by decide +kernel⟩
      diagrams := by decide +kernel
      schemas := fun a ha => by
        obtain rfl := List.mem_singleton.mp ha
        exact ⟨by decide +kernel, by decide +kernel, by decide, by decide⟩ }
  obtain ⟨hagree, htells⟩ := Context.commands_agree (c := context) hmodel hschemas
  exact ⟨hagree, htells.mpr hshows, by decide +kernel,
    hagree.texts (some (Path.ofText "out")) true _ [] hall [] hwritten rfl (by simp)⟩

end Halls

/-! ## Names with brackets -/

namespace Neighbours

open CommandLine Context

/-- What the commands find: a store with a document about rooms, and settings by default. -/
def context (names : List String) : Context where
  start := { arguments := [], vars := [], store := {}, now := ⟨⟨2024, 1, 1⟩, 0, 0, 0, 0, none⟩
             runtime := "3" }
  globals := ⟨none, "development", false, none, false⟩
  settings := {}
  log := {}
  store := store names

/-- The model of a document about one room. -/
def model (name : String) : Model where
  objects := [{ id := some name, name := name, kind := .entity }]
  diagrams := [{ id := some "", name := name ++ ":concept", subjectRefs := [some name] }]

/-- The schema of a room that is marked as old. -/
def oldRoom : Artifact where
  concept := "Room[old]"
  diagram := "Room[old]:concept"
  filename := "room[old]_schema.rel"
  lines := ["", "// Constraints for the 'Room[old]' concept and its subtypes",
    "ic room[old]_is_entity(v) \x7b Room[old](v) implies Entity(v) \x7d"]

/-- The listing of a document about one room. -/
def listing (name filename : String) : Table :=
  listingTable (Path.ofText "model") [⟨name ++ ":concept", 0, .schema name filename⟩]

set_option maxRecDepth 100000 in
/-- A room that is marked as old has the mark in its schema and in the name of the file, and the
listing shows a concept and a file without it. A mark that ends what was not begun breaks the
listing off, though there is a schema. -/
theorem listing_loses_brackets :
    (((model "Room[old]").schemas defaultTemplate).result = .ok [oldRoom] ∧
      ((context ["Room[old]"]).perform (.diagrams (Path.ofText "model"))).report.result =
        .ok { printed := [.table (listing "Room[old]" "room[old]_schema.rel")] } ∧
      (listing "Room[old]" "room[old]_schema.rel").shown.map Table.rows =
        .ok [["Room:concept", "Room", "0", "room_schema.rel"]] ∧
      ¬ (context ["Room[old]"]).TellsDiagrams (Path.ofText "model") (model "Room[old]") [oldRoom]) ∧
    ((model "Room[/b]").schemas defaultTemplate).result.toOption.isSome = true ∧
      ((context ["Room[/b]"]).perform (.diagrams (Path.ofText "model"))).report.result.map
        (fun shown => (shown.ending.status, shown.printed)) = .ok (1, []) := by
  have hold : (Source.model (.file (Path.ofText "model")) {} (store ["Room[old]"])).result =
      .ok (model "Room[old]") := by decide +kernel
  have hschemas : ((model "Room[old]").schemas defaultTemplate).result = .ok [oldRoom] := by
    decide +kernel
  have hrows : (model "Room[old]").listing defaultTemplate =
      .ok [⟨"Room[old]" ++ ":concept", 0, .schema "Room[old]" "room[old]_schema.rel"⟩] := by
    decide +kernel
  have hlisted := perform_diagrams_eq_ok (c := context ["Room[old]"]) hold hrows
  have hshown : (listing "Room[old]" "room[old]_schema.rel").shown.map Table.rows =
      .ok [["Room:concept", "Room", "0", "room_schema.rel"]] := by decide +kernel
  obtain ⟨table, htable, -⟩ := map_eq_ok_iff.mp hshown
  have hreport : (Printed.table (listing "Room[old]" "room[old]_schema.rel")).shown =
      .ok (.table table) := congrArg (Except.map Printed.table) htable
  have hloses : ¬ (context ["Room[old]"]).TellsDiagrams (Path.ofText "model") (model "Room[old]")
      [oldRoom] := by
    intro htells
    have hshows := (tellsDiagrams_iff (c := context ["Room[old]"]) hold hschemas).mp htells
    exact absurd (hshows.schemas oldRoom (by simp)).concept (by decide +kernel)
  have hbold : (Source.model (.file (Path.ofText "model")) {} (store ["Room[/b]"])).result =
      .ok (model "Room[/b]") := by decide +kernel
  have hboldRows : (model "Room[/b]").listing defaultTemplate =
      .ok [⟨"Room[/b]" ++ ":concept", 0, .schema "Room[/b]" "room[/b]_schema.rel"⟩] := by
    decide +kernel
  refine ⟨⟨hschemas, ?_, hshown, hloses⟩, by decide +kernel, ?_⟩
  · exact hlisted.trans (congrArg Except.ok (printed_of_shown _ hreport))
  · rw [perform_diagrams_eq_ok (c := context ["Room[/b]"]) hbold hboldRows]
    decide +kernel

end Neighbours

end RoleSchema
