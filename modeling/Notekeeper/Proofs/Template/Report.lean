import Notekeeper.Command.Editing
import Notekeeper.Proofs.Template.RoundTrip
import Notekeeper.Proofs.Toml.Remark

/-!
# A template under reports

A text that is no template is handed back under a report, and what is left of it is read with the
report. `read_under_reports` says that the reports do not count, however many stand one over the
other: their lines are comments and empty lines, which say nothing in front of a header, and none of
them can pass for the delimiter. A report with a control character in it would be no comment.

What the reader of TOML complains of may quote the header and count its lines, so that the complaint
about a header under reports need not be the one about the header. It can be a report like any other,
and all that is asked of it is that its lines can stand in comments.
-/

namespace Notekeeper.Template

/-! ## The lines of a report -/

/-- A report whose lines can stand in comments: none of them has a control character but tabs. -/
def IsPlainReport (report : String) : Prop :=
  ∀ line ∈ Text.lines report, ∀ char ∈ line.toList, Toml.isPlain char = true

/-- A report with no control characters but tabs and line feeds is plain. -/
theorem is_plain_report_of_chars {report : String}
    (h : (report.toList.all fun char => Toml.isPlain char || char == '\n') = true) :
    IsPlainReport report := by
  intro line hmem char hchar
  obtain ⟨chars, hchars, rfl⟩ := List.mem_map.1 hmem
  rw [String.toList_ofList] at hchar
  obtain ⟨piece, hpiece, hbegins⟩ := Text.prefix_of_mem_lines_of_pieces hchars
  obtain ⟨front, rest, htext, -⟩ := Text.exists_append_of_mem_split hpiece
  have hpart : char ∈ piece := hbegins.subset hchar
  have hin : char ∈ report.toList := by simp [htext, hpart]
  have hquiet := List.all_eq_true.1 h char hin
  simp only [Bool.or_eq_true, beq_iff_eq] at hquiet
  refine hquiet.resolve_right ?_
  rintro rfl
  exact Text.not_mem_of_mem_split hpiece hpart

/-- The lines under which a text is handed back: between two lines of their own those of the report,
or an empty one if there are none, and an empty line at the end. -/
def reportLines (report : String) : List String :=
  "# ===== PARSING ERROR =====" ::
    ((if Text.lines report = [] then [""] else (Text.lines report).map ("# " ++ ·)) ++
      ["# ===== Fix the issue below and save again =====", ""])

/-- A text is put under the lines of a report. -/
theorem with_report_eq (report text : String) :
    withReport report text = Text.join "\n" (reportLines report) ++ "\n" ++ text := by
  have hends (told : List String) (hne : told ≠ []) :
      Text.join "\n" (told ++ ["# ===== Fix the issue below and save again =====", ""]) =
        Text.join "\n" told ++ "\n# ===== Fix the issue below and save again =====\n" := by
    have happend : Text.join "\n" (told ++ ["# ===== Fix the issue below and save again =====", ""]) =
        Text.join "\n" told ++ "\n" ++
          Text.join "\n" ["# ===== Fix the issue below and save again =====", ""] :=
      String.intercalate_append_of_ne_nil hne (by simp)
    rw [happend, Text.join_cons (by simp)]
    apply String.toList_injective
    simp [Text.join]
  unfold withReport reportLines
  rw [Text.join_cons (by simp)]
  split
  next hnone =>
    rw [hends _ (by simp), hnone]
    apply String.toList_injective
    simp [Text.join]
  next hsome =>
    rw [hends _ (by simpa using hsome)]
    apply String.toList_injective
    simp

variable {report text : String}

/-- The lines of a report say nothing to a reader of TOML. -/
theorem IsPlainReport.remarks (h : IsPlainReport report) :
    ∀ line ∈ reportLines report, Toml.IsRemark line.toList := by
  have hopening : Toml.IsRemark "# ===== PARSING ERROR =====".toList :=
    .of_head (by simp) (by simp [Toml.isPlain])
  have hclosing : Toml.IsRemark "# ===== Fix the issue below and save again =====".toList :=
    .of_head (by simp) (by simp [Toml.isPlain])
  have htold : ∀ line ∈ Text.lines report, Toml.IsRemark ("# " ++ line).toList := by
    intro line hmem
    refine .of_head (by simp) ?_
    simpa [Toml.isPlain] using h line hmem
  intro line hmem
  simp only [reportLines, List.mem_cons, List.mem_append, List.not_mem_nil, or_false] at hmem
  rcases hmem with rfl | hmem | rfl | rfl
  · exact hopening
  · split at hmem
    next =>
      obtain rfl := List.mem_singleton.1 hmem
      exact .empty
    next =>
      obtain ⟨told, htoldMem, rfl⟩ := List.mem_map.1 hmem
      exact htold told htoldMem
  · exact hclosing
  · exact .empty

/-- A line that says nothing stays on one line and is not the delimiter. -/
theorem remark_line {line : String} (h : Toml.IsRemark line.toList) :
    Text.Unbroken line ∧ isDelimiter line = false := by
  refine ⟨Text.unbroken_of_not_mem h.no_break, ?_⟩
  simp only [isDelimiter, Text.trimmed, beq_eq_false_iff_ne]
  intro heq
  have hmark : Text.trim line.toList = ['+', '+', '+'] := by
    simpa [delimiter] using congrArg String.toList heq
  cases hline : line.toList with
  | nil => simp [hline, Text.trim, Text.trimStart, Text.trimEnd] at hmark
  | cons char rest =>
      rw [hline] at h hmark
      cases h with
      | comment =>
          have hsign : '#' ∈ Text.trim ('#' :: rest) := Text.mem_trim (by simp) rfl
          simp [hmark] at hsign

/-! ## Reading under a report -/

/-- The lines of a text under a report are those of the report and those of the text. -/
theorem IsPlainReport.lines_with_report (h : IsPlainReport report) (text : String) :
    Text.lines (withReport report text) = reportLines report ++ Text.lines text := by
  have hunbroken : ∀ line ∈ reportLines report, Text.Unbroken line := fun line hmem =>
    (remark_line (h.remarks line hmem)).1
  rw [with_report_eq, Text.lines_join_append (by simp [reportLines]),
    Text.lines_before_singles (fun line hmem => (hunbroken line hmem).1)
      fun line hmem => if_neg (hunbroken line hmem).2]

/-- A header without lines is one. -/
theorem of_header_nothing : ofHeader? (Text.join "\n" []) = some {} := by
  simp [Text.join, ofHeader?, Toml.readDocument, Toml.readLines]
  rfl

/-- A report does not count when the text under it is read. Only a complaint about the header is one
about the header under the report. -/
theorem IsPlainReport.parse_with_report (h : IsPlainReport report)
    (hmark : text.toList.head? ≠ some '\uFEFF') (complaint : String → String) :
    parse complaint (withReport report text) =
      parse (fun header => complaint (withReport report header)) text := by
  have hremarks : ∀ line ∈ (reportLines report).map String.toList, Toml.IsRemark line := by
    simpa using h.remarks
  have hpass : ∀ line ∈ reportLines report, (!isDelimiter line) = true := fun line hmem => by
    simp [(remark_line (h.remarks line hmem)).2]
  have hjoin (lines : List String) : Text.join "\n" lines =
      String.ofList (['\n'].intercalate (lines.map String.toList)) := by
    apply String.toList_injective
    simp [Text.join, String.toList_intercalate]
  let above := (Text.lines text).takeWhile fun line => !isDelimiter line
  have hhead : (Text.join "\n" above).toList.head? ≠ some '\uFEFF' := by
    intro heq
    have hbegins := List.takeWhile_prefix (fun line => !isDelimiter line) (l := Text.lines text)
    rcases Text.head_join_lines hbegins _ heq with hfeed | hfirst
    · exact absurd hfeed (by decide)
    · exact hmark hfirst
  have hheader : ofHeader? (Text.join "\n" (reportLines report ++ above)) =
      ofHeader? (Text.join "\n" above) := by
    rw [hjoin, String.toList_ofList] at hhead
    rw [hjoin, hjoin, List.map_append]
    unfold ofHeader?
    rw [Toml.read_document_remarks hremarks hhead]
  have hbody (count : Nat) : (reportLines report ++ Text.lines text).drop
      ((reportLines report).length + count) = (Text.lines text).drop count := by
    rw [List.drop_append]
    simp
  unfold parse
  simp only [h.lines_with_report, List.takeWhile_append_of_pos hpass, List.length_append,
    Nat.add_assoc, hbody]
  rw [hheader]
  cases hread : ofHeader? (Text.join "\n" above) with
  | some template => rfl
  | none =>
      -- What is complained about has lines, as a header without lines is not refused.
      have hlines : above ≠ [] := by
        intro hnone
        rw [hnone, of_header_nothing] at hread
        cases hread
      have hunder : Text.join "\n" (reportLines report ++ above) =
          withReport report (Text.join "\n" above) := by
        rw [with_report_eq]
        exact String.intercalate_append_of_ne_nil (by simp [reportLines]) hlines
      change Except.error _ = Except.error _
      rw [hunder]

/-- A text under a report begins with the report, so it begins with no byte-order mark. -/
theorem head_with_report (report text : String) :
    (withReport report text).toList.head? = some '#' := by
  have hsign {opening : String} (hopening : opening.toList.head? = some '#') (rest : String) :
      (opening ++ rest).toList.head? = some '#' := by
    rw [String.toList_append, List.head?_append, hopening]
    rfl
  rw [with_report_eq, reportLines, Text.join_cons (by simp)]
  simp only [String.append_assoc]
  exact hsign (by simp) _

/-- A text under reports begins with no byte-order mark, unless it does without them. -/
theorem head_under_reports (reports : List String) (hmark : text.toList.head? ≠ some '\uFEFF') :
    (reports.foldr withReport text).toList.head? ≠ some '\uFEFF' := by
  cases reports with
  | nil => exact hmark
  | cons report reports =>
      rw [List.foldr_cons, head_with_report]
      decide

/-- However many reports stand one over the other, they do not count. -/
theorem parse_under_reports {reports : List String} (h : ∀ report ∈ reports, IsPlainReport report)
    (hmark : text.toList.head? ≠ some '\uFEFF') (complaint : String → String) :
    parse complaint (reports.foldr withReport text) =
      parse (fun header => complaint (reports.foldr withReport header)) text := by
  induction reports generalizing complaint with
  | nil => rfl
  | cons report reports ih =>
      rw [List.forall_mem_cons] at h
      rw [List.foldr_cons, h.1.parse_with_report (head_under_reports reports hmark), ih h.2]
      rfl

/-- What is said about refused headers has no part in which texts are templates. -/
theorem parse_eq_ok_iff (complaint other : String → String) {template : Template} :
    parse complaint text = .ok template ↔ parse other text = .ok template := by
  unfold parse
  dsimp only
  cases ofHeader? (Text.join "\n" ((Text.lines text).takeWhile fun line => !isDelimiter line)) with
  | none => exact iff_of_false nofun nofun
  | some found => rfl

/-! ## Trying again -/

/-- The rounds of an edit that begins with a text. In each of them the user leaves some text under all
reports that have been given until then, and what is left is no template. Told are the edits, what is
handed out after them, and the reports over it, the latest first. -/
inductive Rounds (complaint : String → String) (first : String) :
    List Edit → String → List String → Prop where
  | start : Rounds complaint first [] first []
  | again {edits : List Edit} {handed : String} {reports : List String} {edit : Edit}
      {text : String} {fault : TemplateFault} (rounds : Rounds complaint first edits handed reports)
      (left : edit.apply handed = reports.foldr withReport text)
      (refused : parse complaint (reports.foldr withReport text) = .error fault) :
      Rounds complaint first (edits ++ [edit])
        ((fault.headline :: reports).foldr withReport text) (fault.headline :: reports)

/-- What has happened on a console in rounds with some reports: the user was asked about each of them,
in the order in which they were given. -/
structure Asked (reports : List String) (console later : Console) : Prop where
  complaints : later.complaints = console.complaints
  printed : later.printed =
    console.printed ++ String.join (reports.reverse.map Console.question)
  typed : later.typed = console.typed.drop reports.length
  asked : later.asked = console.asked + reports.length

/-- There is a report for every round. -/
theorem Rounds.length_eq {complaint : String → String} {first handed : String} {edits : List Edit}
    {reports : List String} (h : Rounds complaint first edits handed reports) :
    reports.length = edits.length := by
  induction h with
  | start => rfl
  | again _ _ _ ih => simp [ih]

/-- Nobody gives up by saying nothing. -/
theorem not_gives_up_empty : Console.givesUp "" = false := by
  decide

/-- One more round: the user is asked about what was left, and it is handed out again under one more
report. -/
theorem edit_again {console : Console} {edit : Edit} {handed : String} {fault : TemplateFault}
    (hrefused : parse console.complaints.header (edit.apply handed) = .error fault)
    (hanswer : ∀ answer ∈ console.typed.head?, Console.givesUp answer = false) (more : List Edit) :
    ∃ later, Console.editUntilRead handed (edit :: more) console =
        Console.editUntilRead (withReport fault.headline (edit.apply handed)) more later ∧
      Asked [fault.headline] console later := by
  have hgoes : Console.givesUp (console.typed.headD "") = false := by
    cases htyped : console.typed with
    | nil => exact not_gives_up_empty
    | cons answer others => exact hanswer answer (by simp [htyped])
  let asked := (({ console.hand handed with edits := more } : Console).print
    (Console.question fault.headline)).readLine
  refine ⟨asked.2, ?_, rfl, ?_, ?_, rfl⟩
  · rw [Console.editUntilRead]
    simp only [hrefused]
    change (if Console.givesUp (console.typed.headD "") = true then _ else _) = _
    rw [hgoes, if_neg Bool.false_ne_true]
  · change console.printed ++ Console.question fault.headline = _
    simp
  · change console.typed.tail = _
    simp

/-- Rounds one after the other. -/
theorem Asked.cons {reports : List String} {report : String} {console middle later : Console}
    (h : Asked reports console middle) (hmore : Asked [report] middle later) :
    Asked (report :: reports) console later := by
  refine ⟨hmore.complaints.trans h.complaints, ?_, ?_, ?_⟩
  · rw [hmore.printed, h.printed]
    simp [String.append_assoc]
  · rw [hmore.typed, h.typed, List.drop_drop]
    rfl
  · rw [hmore.asked, h.asked]
    rfl

/-- While the user does not give up, an edit goes through all its rounds. -/
theorem Rounds.run {console : Console} {first handed : String} {edits : List Edit}
    {reports : List String} (h : Rounds console.complaints.header first edits handed reports)
    (hanswers : ∀ answer ∈ console.typed.take edits.length, Console.givesUp answer = false)
    (more : List Edit) :
    ∃ later, Console.editUntilRead first (edits ++ more) console =
        Console.editUntilRead handed more later ∧
      Asked reports console later := by
  induction h generalizing more with
  | start => exact ⟨console, rfl, rfl, by simp, rfl, rfl⟩
  | @again edits handed reports edit text fault rounds hleft hrefused ih =>
      rw [List.length_append, List.length_singleton, List.take_add_one] at hanswers
      obtain ⟨middle, hrun, hasked⟩ :=
        ih (fun answer hmem => hanswers answer (List.mem_append_left _ hmem)) (edit :: more)
      have hnext : ∀ answer ∈ middle.typed.head?, Console.givesUp answer = false := by
        intro answer hmem
        rw [hasked.typed, rounds.length_eq, List.head?_drop] at hmem
        exact hanswers answer (List.mem_append_right _ (Option.mem_toList.2 hmem))
      rw [← hleft, ← hasked.complaints] at hrefused
      obtain ⟨later, hagain, hlater⟩ := edit_again hrefused hnext more
      refine ⟨later, ?_, hasked.cons hlater⟩
      rw [List.append_assoc, List.singleton_append, hrun, hagain, hleft, List.foldr_cons]

/-- A text under any number of reports is a template exactly if it is one without them, and then the
same; what is wrong with it is the same too, but that a complaint about its header is one about the
header under the reports. So an edit in which reports pile up reads what the user leaves under them:
it ends with the first text that is a template for itself, after a question for each one before it,
and goes on with any other. -/
theorem read_under_reports {complaints : Complaints} {reports : List String} {text : String}
    (hreports : ∀ report ∈ reports, IsPlainReport report)
    (hmark : text.toList.head? ≠ some '\uFEFF') :
    (∀ template, parse complaints.header (reports.foldr withReport text) = .ok template ↔
        parse complaints.header text = .ok template) ∧
      parse complaints.header (reports.foldr withReport text) =
        parse (fun header => complaints.header (reports.foldr withReport header)) text ∧
      ∀ (first handed : String) (edits : List Edit) (edit : Edit),
        Rounds complaints.header first edits handed reports →
        edit.apply handed = reports.foldr withReport text →
          (∀ (template : Template) (more : List Edit) (console : Console),
            parse complaints.header text = .ok template → console.complaints = complaints →
            (∀ answer ∈ console.typed.take edits.length, Console.givesUp answer = false) →
            ∃ later, Console.editUntilRead first (edits ++ edit :: more) console =
                .ok template later ∧
              Asked reports console later ∧ later.edits = more) ∧
          ((∀ template, parse complaints.header text ≠ .ok template) →
            ∃ report, Rounds complaints.header first (edits ++ [edit])
              ((report :: reports).foldr withReport text) (report :: reports)) := by
  have hparse := parse_under_reports hreports hmark complaints.header
  have hread (template : Template) :
      parse complaints.header (reports.foldr withReport text) = .ok template ↔
        parse complaints.header text = .ok template := by
    rw [hparse]
    exact parse_eq_ok_iff _ _
  refine ⟨hread, hparse, fun first handed edits edit hrounds hleft => ⟨?_, fun hrefused => ?_⟩⟩
  · rintro template more console htext rfl hanswers
    obtain ⟨asked, hrun, hasked⟩ := hrounds.run hanswers (edit :: more)
    refine ⟨{ asked.hand handed with edits := more }, ?_,
      ⟨hasked.complaints, hasked.printed, hasked.typed, hasked.asked⟩, rfl⟩
    rw [hrun, Console.editUntilRead]
    simp only [hasked.complaints, hleft, (hread template).2 htext]
  · cases hfault : parse complaints.header (reports.foldr withReport text) with
    | ok template => exact absurd ((hread template).1 hfault) (hrefused template)
    | error fault => exact ⟨fault.headline, .again hrounds hleft hfault⟩

/-- A template for an example, with a delimiter in its body. -/
def sample : Template where
  name := "Plan"
  due := "next week"
  format := "markup"
  body := "one\n+++\ntwo"

/-- Complaints for an example: they run over several lines and quote what is refused. -/
def quotingComplaints : Complaints where
  header := fun text => "TOML parse error\n  |\n1 | " ++ text
  profile := id

/-- The reports of the example: one on a header without a value, and two on a due date. -/
def quotingReports : List String :=
  ["Invalid due date 'x'", "Invalid due date 'x'", quotingComplaints.header "name = "]

/-- The reports of the example can stand in comments. -/
theorem quoting_reports_plain : ∀ report ∈ quotingReports, IsPlainReport report := by
  intro report hmem
  simp only [quotingReports, List.mem_cons, List.not_mem_nil, or_false] at hmem
  rcases hmem with rfl | rfl | rfl
  all_goals exact is_plain_report_of_chars (by decide)

/-- A round of the example: what is left has a due date that says nothing. -/
theorem Rounds.again_undue {first handed : String} {edits : List Edit} {reports : List String}
    (rounds : Rounds quotingComplaints.header first edits handed reports)
    (hplain : ∀ report ∈ reports, IsPlainReport report) {edit : Edit}
    (left : edit.apply handed = reports.foldr withReport "due = 'x'") :
    Rounds quotingComplaints.header first (edits ++ [edit])
      (("Invalid due date 'x'" :: reports).foldr withReport "due = 'x'")
      ("Invalid due date 'x'" :: reports) := by
  have hdue (complaint : String → String) :
      parse complaint "due = 'x'" = .error (.due "x" .unexpected) := by
    cbv
  have hheadline : TemplateFault.headline (.due "x" .unexpected) = "Invalid due date 'x'" := by
    decide
  have hrefused : parse quotingComplaints.header (reports.foldr withReport "due = 'x'") =
      .error (.due "x" .unexpected) := by
    rw [parse_under_reports hplain (by decide), hdue]
  rw [← hheadline]
  exact rounds.again left hrefused

/-- In the example the user leaves a header without a value, then a due date that says nothing, and
leaves that as it is when it is handed out again. -/
theorem quoting_rounds :
    Rounds quotingComplaints.header sample.render
      [.replace "name = ",
        .replace (withReport (quotingComplaints.header "name = ") "due = 'x'"), .keep]
      (quotingReports.foldr withReport "due = 'x'") quotingReports := by
  have hplain := quoting_reports_plain
  rw [quotingReports, List.forall_mem_cons] at hplain
  have hname : parse quotingComplaints.header "name = " =
      .error (.header (quotingComplaints.header "name = ")) := by
    cbv
  have hstart : Rounds quotingComplaints.header sample.render [] sample.render [] := .start
  have hleft : (Edit.replace "name = ").apply sample.render =
      [].foldr withReport "name = " := rfl
  have hfirst := hstart.again hleft hname
  exact (hfirst.again_undue (List.forall_mem_cons.1 hplain.2).2 rfl).again_undue hplain.2 rfl

/-- In the example the user is asked three times, once about each report. Then the template left under
all of them is read. -/
theorem read_under_reports_of_sample :
    ∃ later, Console.editUntilRead sample.render
        [.replace "name = ",
          .replace (withReport (quotingComplaints.header "name = ") "due = 'x'"), .keep,
          .replace (quotingReports.foldr withReport sample.render)]
        { complaints := quotingComplaints, typed := ["r", "", "x"] } = .ok sample later ∧
      Asked quotingReports { complaints := quotingComplaints, typed := ["r", "", "x"] } later ∧
      later.asked = 3 := by
  have hmark : sample.render.toList.head? ≠ some '\uFEFF' := by
    decide
  have heditable : sample.Editable := by
    constructor
    case due => exact ⟨.nextWeek, rfl⟩
    all_goals decide
  obtain ⟨-, -, hedits⟩ :=
    @read_under_reports quotingComplaints _ _ quoting_reports_plain hmark
  obtain ⟨hends, -⟩ := hedits sample.render _ _
    (.replace (quotingReports.foldr withReport sample.render)) quoting_rounds rfl
  obtain ⟨later, hrun, hasked, -⟩ := hends sample []
    { complaints := quotingComplaints, typed := ["r", "", "x"] } (heditable.parse_render _) rfl
    (by decide)
  exact ⟨later, hrun, hasked, hasked.asked⟩

end Notekeeper.Template
