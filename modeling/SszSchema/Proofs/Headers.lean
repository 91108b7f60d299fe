import SszSchema.Proofs.Lexing
import SszSchema.Proofs.NormalForm
import SszSchema.Proofs.Hygiene
import SszSchema.Source.Acceptance

/-!
# Headers

What the header does to generated modules. Every module begins with it, and validated settings have
a header that begins with a number sign and holds no line feed. What the lexer ends lines at is more
than that: a carriage return inside the header ends the comment, and what stands behind it is read
as code (`Settings.headerCode`).

Whether an assembly succeeds depends on the header through that code only, if the header does not
hold the null character (`Module.passes_iff`), and what is generated is the header with lines below
it that do not depend on it (`Assembly.assemble_eq_ok_iff`). So headers may be exchanged just if
their code is the same (`assemble_header`), as it is for all that show no carriage return
(`Settings.headerCode_eq_nil_iff`).
-/

namespace SszSchema

open Source Source.Lexer

/-! ## Texts below a first line -/

theorem rdropWhile_cons_of_neg {α : Type} {p : α → Bool} {a : α} (ha : ¬p a = true) (l : List α) :
    (a :: l).rdropWhile p = a :: l.rdropWhile p := by
  induction l using List.reverseRecOn with
  | nil => rw [List.rdropWhile_singleton, if_neg ha, List.rdropWhile_nil]
  | append_singleton l b ih =>
    by_cases hb : p b = true
    · rw [← List.cons_append, List.rdropWhile_concat_pos _ _ _ hb,
        List.rdropWhile_concat_pos _ _ _ hb, ih]
    · rw [← List.cons_append, List.rdropWhile_concat_neg _ _ _ hb,
        List.rdropWhile_concat_neg _ _ _ hb, List.cons_append]

namespace Text

theorem join_append_cons (sep a b : String) (parts : List String) :
    join sep ((a ++ b) :: parts) = a ++ join sep (b :: parts) := by
  cases parts with
  | nil => rfl
  | cons part parts => simp only [join, String.append_assoc]

end Text

namespace Layout

/-- The lines in normal form below a first line that is not blank. -/
def linesBelow (cs : List Char) : List (List Char) :=
  (squeeze 0 ((Text.lines cs).map (Text.dropEndWhile Text.isBlank))).rdropWhile List.isEmpty

/-- Their text, with the line feed that ends the first line. -/
def below (cs : List Char) : List Char := following (linesBelow cs) ++ ['\n']

theorem exists_below_eq (cs : List Char) : ∃ rest, below cs = '\n' :: rest := by
  unfold below
  cases linesBelow cs with
  | nil => exact ⟨[], rfl⟩
  | cons l ls => exact ⟨_, rfl⟩

/-- A first line that is not blank stays the first line. -/
theorem normalLines_line {line : List Char} (hfeed : '\n' ∉ line)
    (hne : Text.dropEndWhile Text.isBlank line ≠ []) (cs : List Char) :
    normalLines (line ++ '\n' :: cs) =
      Text.dropEndWhile Text.isBlank line :: linesBelow cs := by
  have hline : Text.lines (Text.joinWith ['\n'] [line]) = [line] :=
    Text.lines_joinWith (by simpa using hfeed) (List.cons_ne_nil line [])
  have hlines : Text.lines (line ++ '\n' :: cs) = line :: Text.lines cs := by
    rw [Text.lines_append_feed]
    exact congrArg (· ++ Text.lines cs) hline
  obtain ⟨c, shown, hshown⟩ := List.exists_cons_of_ne_nil hne
  rw [normalLines, hlines, List.map_cons, hshown, squeeze]
  exact rdropWhile_cons_of_neg Bool.false_ne_true _

theorem normalize_line {line : List Char} (hfeed : '\n' ∉ line)
    (hne : Text.dropEndWhile Text.isBlank line ≠ []) (cs : List Char) :
    normalize (line ++ '\n' :: cs) = Text.dropEndWhile Text.isBlank line ++ below cs := by
  rw [normalize, normalLines_line hfeed hne, joinWith_cons_eq, List.append_assoc, below]

end Layout

/-! ## The parts of a header -/

namespace Settings

variable {settings settings' : Settings}

/-- The header as modules show it: white space at its end is left out. -/
def shownHeader (settings : Settings) : List Char :=
  Text.dropEndWhile Text.isBlank settings.header.toList

/-- The header up to the first place where the lexer ends a line. -/
def headerComment (settings : Settings) : List Char :=
  settings.shownHeader.takeWhile (!endsLine ·)

/-- The header from the first place on where the lexer ends a line. -/
def headerCode (settings : Settings) : List Char :=
  settings.shownHeader.dropWhile (!endsLine ·)

theorem headerComment_append (settings : Settings) :
    settings.headerComment ++ settings.headerCode = settings.shownHeader :=
  List.takeWhile_append_dropWhile

theorem header_of_validate (h : settings.validate = .ok settings) :
    ∃ body, settings.header.toList = '#' :: body ∧ '\n' ∉ settings.header.toList := by
  unfold validate at h
  split at h
  · cases h
  split at h
  · cases h
  split at h
  · cases h
  split at h
  · cases h
  case isFalse hheader =>
  rw [Bool.or_eq_true, not_or, Bool.not_eq_true', Bool.not_eq_false] at hheader
  obtain ⟨body, hbody⟩ := List.isPrefixOf_iff_prefix.mp hheader.1
  exact ⟨body, hbody.symm, fun hmem => hheader.2 (List.contains_iff_mem.mpr hmem)⟩

/-- The header is not blank. -/
theorem exists_shownHeader_eq (h : settings.validate = .ok settings) :
    ∃ body, settings.shownHeader = '#' :: body := by
  obtain ⟨body, hbody, -⟩ := header_of_validate h
  exact ⟨_, by rw [shownHeader, hbody]; exact rdropWhile_cons_of_neg (by decide) body⟩

theorem isComment_headerComment (h : settings.validate = .ok settings) :
    IsComment settings.headerComment := by
  obtain ⟨body, hbody⟩ := exists_shownHeader_eq h
  refine ⟨?_, fun c hc => ?_⟩
  · rw [headerComment, hbody, List.takeWhile_cons_of_pos (by decide), List.head?_cons]
  · simpa using List.mem_takeWhile_imp hc

/-- Of validated headers, those have code that show a carriage return. -/
theorem headerCode_eq_nil_iff (h : settings.validate = .ok settings) :
    settings.headerCode = [] ↔ '\r' ∉ settings.shownHeader := by
  obtain ⟨-, -, hfeed⟩ := header_of_validate h
  have hends : ∀ c ∈ settings.shownHeader, endsLine c = true ↔ c = '\r' := fun c hc => by
    have hne : c ≠ '\n' := fun heq => hfeed (heq ▸ Text.mem_of_mem_dropEndWhile hc)
    simp [endsLine, hne]
  rw [headerCode, List.dropWhile_eq_nil_iff]
  refine ⟨fun hall hreturn => ?_, fun hreturn c hc => ?_⟩
  · simpa [endsLine] using hall _ hreturn
  · rw [Bool.not_eq_true', Bool.eq_false_iff]
    exact fun hend => hreturn ((hends c hc).mp hend ▸ hc)

/-- The null character is not white space, so the header shows it. -/
theorem null_mem_shownHeader : Char.ofNat 0 ∈ settings.shownHeader ↔
    Char.ofNat 0 ∈ settings.header.toList := by
  refine ⟨Text.mem_of_mem_dropEndWhile, fun h => ?_⟩
  have hparts : settings.shownHeader ++ settings.header.toList.rtakeWhile Text.isBlank =
      settings.header.toList := List.rdropWhile_append_rtakeWhile
  rw [← hparts] at h
  exact (List.mem_append.mp h).resolve_right fun hdropped =>
    absurd (List.mem_rtakeWhile_imp hdropped) (by decide)

/-- A line ends behind the comment of a header, in the header or at its end. -/
theorem exists_headerCode_append (settings : Settings) (cs : List Char) :
    ∃ c ∈ (settings.headerCode ++ Layout.below cs).head?, endsLine c = true := by
  obtain ⟨rest, hrest⟩ := Layout.exists_below_eq cs
  cases hcode : settings.headerCode with
  | nil => exact ⟨'\n', by rw [hrest]; rfl, rfl⟩
  | cons c code =>
    have hc := List.head?_dropWhile_not (!endsLine ·) settings.shownHeader
    rw [← headerCode, hcode] at hc
    exact ⟨c, rfl, by simpa using hc⟩

end Settings

/-! ## Modules and their headers -/

namespace Module

/-- The text of a module below its header. -/
def belowHeader (m : Module) : List Char :=
  (Text.join "\n\n\n" (("# source: " ++ Text.join ", " m.sources) ::
    m.sections.tail.filter (· ≠ ""))).toList

theorem text_eq (m : Module) : m.text.toList = m.header.toList ++ '\n' :: m.belowHeader := by
  have hhead : m.headText = (m.header ++ "\n") ++ ("# source: " ++ Text.join ", " m.sources) := by
    have hfeed : "\n# source: " = "\n" ++ "# source: " := rfl
    rw [headText, hfeed]
    simp only [String.append_assoc]
  have hsections : m.sections = m.headText :: m.sections.tail := rfl
  have hne : m.headText ≠ "" := fun hempty => by
    simp [hhead, String.append_eq_empty_iff] at hempty
  rw [text, hsections, List.filter_cons_of_pos (by simpa using hne), hhead, Text.join_append_cons]
  simp [belowHeader]

/-- The output that a module makes if it begins with the given header. -/
def under (m : Module) (header : List Char) : Output where
  file := m.file
  text := String.ofList (header ++ Layout.below m.belowHeader)
  records := m.records
  definesErrors := m.definesErrors

/-- A module is accepted with the given header. -/
def Passes (m : Module) (accepts : String → Bool) (header : List Char) : Prop :=
  m.codes.all RecordCode.hasDistinctFields = true ∧ accepts (m.under header).text = true

/-- The comment of a header, its code, and what stands below. -/
theorem text_under (m : Module) (settings : Settings) :
    (m.under settings.shownHeader).text.toList =
      settings.headerComment ++ (settings.headerCode ++ Layout.below m.belowHeader) := by
  rw [under, String.toList_ofList, ← Settings.headerComment_append, List.append_assoc]

/-- The normal form of a module's text. -/
theorem normalize_text {settings : Settings} (h : settings.validate = .ok settings) (m : Module) :
    Layout.normalize { m with header := settings.header }.text.toList =
      settings.shownHeader ++ Layout.below m.belowHeader := by
  obtain ⟨-, -, hfeed⟩ := Settings.header_of_validate h
  obtain ⟨body, hbody⟩ := Settings.exists_shownHeader_eq h
  rw [text_eq]
  exact Layout.normalize_line hfeed (by rw [← Settings.shownHeader, hbody]; nofun) _

/-- What is read of a module with a header: the header's code, and what stands below. -/
theorem lex_under {settings : Settings} (h : settings.validate = .ok settings)
    (hnull : Char.ofNat 0 ∉ settings.header.toList) (m : Module) :
    lex true (m.under settings.shownHeader).text.toList =
      lex true (settings.headerCode ++ Layout.below m.belowHeader) := by
  have hcomment := Settings.isComment_headerComment h
  have hnull' : Char.ofNat 0 ∉ settings.headerComment := fun hmem =>
    hnull (Settings.null_mem_shownHeader.mp ((List.takeWhile_sublist _).subset hmem))
  rw [text_under]
  exact lex_comment hcomment hnull' (Settings.exists_headerCode_append settings _)

/-- A header with the null character is never accepted, and of any other one only the code tells
whether it is. -/
theorem passes_iff {settings : Settings} (h : settings.validate = .ok settings) (m : Module) :
    m.Passes accepts settings.shownHeader ↔ Char.ofNat 0 ∉ settings.header.toList ∧
      m.codes.all RecordCode.hasDistinctFields = true ∧
      (lex true (settings.headerCode ++ Layout.below m.belowHeader)).any acceptsLexemes = true := by
  by_cases hnull : Char.ofNat 0 ∈ settings.header.toList
  · have hmem : Char.ofNat 0 ∈ (m.under settings.shownHeader).text.toList := by
      rw [under, String.toList_ofList]
      exact List.mem_append_left _ (Settings.null_mem_shownHeader.mpr hnull)
    simp [Passes, accepts, lex_eq_none_of_mem hmem, hnull]
  · rw [Passes, accepts, lex_under h hnull]
    exact (and_iff_right hnull).symm

end Module

/-! ## Assemblies and their headers -/

namespace Assembly

variable {s : Schema} {units : List SourceUnit} {selected : Option (List String)}
  {output : Option Path} {settings : Settings} {p : Plan} {part : ModulePlan} {m : Module}
  {passing : String → Bool}

/-- Nothing of a module but the header depends on the header. -/
theorem moduleOf_header (header : String) : moduleOf s p header part =
    (fun m : Module => { m with header }) <$> moduleOf s p "" part := by
  simp only [moduleOf, map_bind, map_pure]

theorem outputOf_eq_ok_iff (h : settings.validate = .ok settings) {out : Output} :
    outputOf passing { m with header := settings.header } = .ok out ↔
      m.Passes passing settings.shownHeader ∧ m.under settings.shownHeader = out := by
  have htext : String.ofList (Layout.normalize { m with header := settings.header }.text.toList) =
      (m.under settings.shownHeader).text := congrArg String.ofList (m.normalize_text h)
  unfold outputOf Layout.format Module.Passes
  rw [htext]
  by_cases hcodes : m.codes.all RecordCode.hasDistinctFields = true
  · by_cases hpassing : passing (m.under settings.shownHeader).text = true
    · simp only [hcodes, hpassing, if_true, and_self, true_and, Except.ok.injEq]
      rfl
    · simp [hpassing]
  · simp [hcodes]

/-- The outputs of an assembly are the modules of its plan under the header. -/
theorem assemble_eq_ok_iff (h : settings.validate = .ok settings) {outs : List Output} :
    assemble passing s units selected output settings = .ok outs ↔
      ∃ modules, modulesOf s units selected output { settings with header := "" } = .ok modules ∧
        modules ≠ [] ∧ (∀ m ∈ modules, m.Passes passing settings.shownHeader) ∧
        modules.map (·.under settings.shownHeader) = outs := by
  have hpart (p : Plan) (part : ModulePlan) (out : Output) :
      (moduleOf s p settings.header part >>= outputOf passing) = .ok out ↔
        ∃ m, moduleOf s p "" part = .ok m ∧ m.Passes passing settings.shownHeader ∧
          m.under settings.shownHeader = out := by
    rw [moduleOf_header, bind_map_left, Outcome.bind_eq_ok]
    exact exists_congr fun m => and_congr_right fun _ => outputOf_eq_ok_iff h
  have hparts (p : Plan) : p.modules.mapM (fun part =>
      moduleOf s p settings.header part >>= outputOf passing) = .ok outs ↔
        ∃ modules, p.modules.mapM (moduleOf s p "") = .ok modules ∧
          (∀ m ∈ modules, m.Passes passing settings.shownHeader) ∧
          modules.map (·.under settings.shownHeader) = outs := by
    simp only [Outcome.mapM_eq_ok_iff, hpart, forall₂_comp_iff]
    refine exists_congr fun modules => and_congr_right fun _ => ?_
    rw [List.forall₂_and_left, ← List.forall₂_map_left_iff, List.forall₂_eq_eq_eq]
  unfold assemble modulesOf
  constructor
  · intro hassemble
    obtain ⟨p, hplan, hassemble⟩ := Outcome.bind_eq_ok.mp hassemble
    split at hassemble
    · cases hassemble
    case isFalse hsome =>
    obtain ⟨modules, hmodules, hpasses⟩ := (hparts p).mp hassemble
    refine ⟨modules, Outcome.bind_eq_ok.mpr ⟨p, hplan, hmodules⟩, ?_, hpasses⟩
    rintro rfl
    have hnone := List.forall₂_nil_right_iff.mp (Outcome.mapM_eq_ok_iff.mp hmodules)
    exact hsome (List.isEmpty_iff.mpr hnone)
  · rintro ⟨modules, hmodules, hne, hpasses⟩
    obtain ⟨p, hplan, hmodules⟩ := Outcome.bind_eq_ok.mp hmodules
    refine Outcome.bind_eq_ok.mpr ⟨p, hplan, ?_⟩
    rw [if_neg]
    · exact (hparts p).mpr ⟨modules, hmodules, hpasses⟩
    · intro hnone
      rw [List.isEmpty_iff.mp hnone] at hmodules
      exact hne (Outcome.pure_eq_ok.mp hmodules).symm

end Assembly

/-! ## Exchanging headers -/

/-- Texts that differ in nothing but a comment, which is the first line of each. -/
def SameCode (text text' : List Char) : Prop :=
  ∃ comment comment' rest, IsComment comment ∧ IsComment comment' ∧
    (∃ c ∈ rest.head?, endsLine c = true) ∧ text = comment ++ rest ∧ text' = comment' ++ rest

/-- Outputs that differ in nothing but a comment in their texts. -/
structure Output.Matches (o o' : Output) : Prop where
  file : o.file = o'.file
  text : SameCode o.text.toList o'.text.toList
  records : o.records = o'.records
  definesErrors : o.definesErrors = o'.definesErrors

namespace Settings

variable {settings settings' : Settings}

/-- A module with two headers has the same code just if the headers have. -/
theorem sameCode_iff (h : settings.validate = .ok settings) (h' : settings'.validate = .ok settings')
    (m : Module) : SameCode (m.under settings.shownHeader).text.toList
      (m.under settings'.shownHeader).text.toList ↔ settings.headerCode = settings'.headerCode := by
  have hbehind {settings : Settings} (h : settings.validate = .ok settings) :
      (m.under settings.shownHeader).text.toList.dropWhile (!endsLine ·) =
        settings.headerCode ++ Layout.below m.belowHeader := by
    rw [m.text_under]
    exact (isComment_headerComment h).dropWhile_append (exists_headerCode_append settings _)
  constructor
  · rintro ⟨comment, comment', rest, hcomment, hcomment', hrest, heq, heq'⟩
    have hcode : settings.headerCode ++ Layout.below m.belowHeader = rest := by
      rw [← hbehind h, heq, hcomment.dropWhile_append hrest]
    have hcode' : settings'.headerCode ++ Layout.below m.belowHeader = rest := by
      rw [← hbehind h', heq', hcomment'.dropWhile_append hrest]
    exact List.append_cancel_right (hcode.trans hcode'.symm)
  · intro hcode
    exact ⟨settings.headerComment, settings'.headerComment, _, isComment_headerComment h,
      isComment_headerComment h', exists_headerCode_append settings m.belowHeader,
      m.text_under settings, by rw [m.text_under, hcode]⟩

theorem matches_iff (h : settings.validate = .ok settings) (h' : settings'.validate = .ok settings')
    (m : Module) : (m.under settings.shownHeader).Matches (m.under settings'.shownHeader) ↔
      settings.headerCode = settings'.headerCode :=
  ⟨fun hmatches => (sameCode_iff h h' m).mp hmatches.text,
    fun hcode => ⟨rfl, (sameCode_iff h h' m).mpr hcode, rfl, rfl⟩⟩

end Settings

/-- Runs of which one succeeds just if the other does, with outputs that match. -/
structure Interchangeable (run run' : Generation (List Output)) : Prop where
  succeeds : run.isOk = true ↔ run'.isOk = true
  outputs : ∀ outs outs', run = .ok outs → run' = .ok outs' →
    List.Forall₂ Output.Matches outs outs'

section

variable {s : Schema} {units : List SourceUnit} {selected : Option (List String)}
  {output : Option Path} {settings settings' : Settings} {outs outs' : List Output}

namespace Assembly

/-- Outputs with two headers match just if the headers have the same code. -/
theorem forall₂_matches_iff {passing : String → Bool} (h : settings.validate = .ok settings)
    (h' : settings'.validate = .ok settings')
    (hsame : settings' = { settings with header := settings'.header })
    (houts : assemble passing s units selected output settings = .ok outs)
    (houts' : assemble passing s units selected output settings' = .ok outs') :
    List.Forall₂ Output.Matches outs outs' ↔ settings.headerCode = settings'.headerCode := by
  obtain ⟨modules, hmodules, hne, -, rfl⟩ := (assemble_eq_ok_iff h).mp houts
  obtain ⟨modules', hmodules', -, -, rfl⟩ := (assemble_eq_ok_iff h').mp houts'
  have hbare : { settings' with header := "" } = { settings with header := "" } := by rw [hsame]
  rw [hbare] at hmodules'
  obtain rfl := Except.ok.inj (hmodules.symm.trans hmodules')
  simp only [List.forall₂_map_left_iff, List.forall₂_map_right_iff, List.forall₂_same,
    Settings.matches_iff h h']
  obtain ⟨m, hm⟩ := List.exists_mem_of_ne_nil modules hne
  exact ⟨fun hall => hall m hm, fun hcode _ _ => hcode⟩

/-- No header that holds the null character is accepted. -/
theorem null_notMem (h : settings.validate = .ok settings)
    (houts : assemble Source.accepts s units selected output settings = .ok outs) :
    Char.ofNat 0 ∉ settings.header.toList := by
  obtain ⟨modules, -, hne, hpasses, -⟩ := (assemble_eq_ok_iff h).mp houts
  obtain ⟨m, hm⟩ := List.exists_mem_of_ne_nil modules hne
  exact ((m.passes_iff h).mp (hpasses m hm)).1

/-- An assembly succeeds with any other header that has the same code. -/
theorem isOk_of_headerCode_eq (h : settings.validate = .ok settings)
    (h' : settings'.validate = .ok settings')
    (hsame : settings' = { settings with header := settings'.header })
    (hcode : settings.headerCode = settings'.headerCode)
    (hnull : Char.ofNat 0 ∉ settings'.header.toList)
    (hok : (assemble Source.accepts s units selected output settings).isOk = true) :
    (assemble Source.accepts s units selected output settings').isOk = true := by
  obtain ⟨outs, houts⟩ := Outcome.exists_eq_ok hok
  obtain ⟨modules, hmodules, hne, hpasses, -⟩ := (assemble_eq_ok_iff h).mp houts
  have hbare : { settings' with header := "" } = { settings with header := "" } := by rw [hsame]
  have hpasses' : ∀ m ∈ modules, m.Passes Source.accepts settings'.shownHeader := fun m hm => by
    obtain ⟨-, hcompiles⟩ := (m.passes_iff h).mp (hpasses m hm)
    rw [hcode] at hcompiles
    exact (m.passes_iff h').mpr ⟨hnull, hcompiles⟩
  rw [(assemble_eq_ok_iff h').mpr ⟨modules, hbare ▸ hmodules, hne, hpasses', rfl⟩]
  rfl

end Assembly

/-- **Headers are comments up to the first carriage return.** Assemblies under settings that differ
in the header only are interchangeable if the headers have the same code and do not hold the null
character, and otherwise only if none of them succeeds. A header has no code if it shows no carriage
return. Of what is generated, the code of the header is read and what stands below the header. -/
theorem assemble_header (h : settings.validate = .ok settings)
    (h' : settings'.validate = .ok settings')
    (hsame : settings' = { settings with header := settings'.header }) :
    (Interchangeable (assemble Source.accepts s units selected output settings)
        (assemble Source.accepts s units selected output settings') ↔
      (assemble Source.accepts s units selected output settings).isOk = false ∧
        (assemble Source.accepts s units selected output settings').isOk = false ∨
      settings.headerCode = settings'.headerCode ∧
        Char.ofNat 0 ∉ settings.header.toList ∧ Char.ofNat 0 ∉ settings'.header.toList) ∧
    (settings.headerCode = [] ↔ '\r' ∉ settings.shownHeader) ∧
    ∀ outs, assemble Source.accepts s units selected output settings = .ok outs → ∀ out ∈ outs,
      ∃ rest, out.text.toList = settings.shownHeader ++ '\n' :: rest ∧
        Source.lex true out.text.toList = Source.lex true (settings.headerCode ++ '\n' :: rest) := by
  refine ⟨⟨fun hinter => ?_, ?_⟩, Settings.headerCode_eq_nil_iff h,
    fun outs houts out hout => ?_⟩
  · cases hok : (assemble Source.accepts s units selected output settings).isOk with
    | false =>
      refine .inl ⟨rfl, Bool.eq_false_iff.mpr fun hok' => ?_⟩
      rw [hinter.succeeds.mpr hok'] at hok
      cases hok
    | true =>
      obtain ⟨outs, houts⟩ := Outcome.exists_eq_ok hok
      obtain ⟨outs', houts'⟩ := Outcome.exists_eq_ok (hinter.succeeds.mp hok)
      exact .inr ⟨(Assembly.forall₂_matches_iff h h' hsame houts houts').mp
        (hinter.outputs outs outs' houts houts'), Assembly.null_notMem h houts,
        Assembly.null_notMem h' houts'⟩
  · rintro (⟨hfails, hfails'⟩ | ⟨hcode, hnull, hnull'⟩)
    · refine ⟨by rw [hfails, hfails'], fun outs outs' houts => ?_⟩
      rw [houts] at hfails
      cases hfails
    · have hback : settings = { settings' with header := settings.header } := by rw [hsame]
      exact ⟨⟨Assembly.isOk_of_headerCode_eq h h' hsame hcode hnull',
        Assembly.isOk_of_headerCode_eq h' h hback hcode.symm hnull⟩,
        fun outs outs' houts houts' =>
          (Assembly.forall₂_matches_iff h h' hsame houts houts').mpr hcode⟩
  · obtain ⟨modules, -, -, -, rfl⟩ := (Assembly.assemble_eq_ok_iff h).mp houts
    obtain ⟨m, -, rfl⟩ := List.mem_map.mp hout
    obtain ⟨rest, hrest⟩ := Layout.exists_below_eq m.belowHeader
    refine ⟨rest, ?_, ?_⟩
    · rw [Module.under, String.toList_ofList, hrest]
    · rw [m.lex_under h (Assembly.null_notMem h houts), hrest]

/-- Settings with a header that white space ends. -/
def trailingSettings : Settings := { header := "#!\r" }

/-- White space at the end of a header does no harm, be it a carriage return. -/
theorem interchangeable_cross : ({} : Settings).validate = .ok {} ∧
    trailingSettings.validate = .ok trailingSettings ∧
    ∃ sd, schemaOf crossUnits = .ok sd ∧
      Interchangeable (assemble Source.accepts sd.1 crossUnits none none {})
        (assemble Source.accepts sd.1 crossUnits none none trailingSettings) := by
  have h : ({} : Settings).validate = .ok {} := by decide +kernel
  have h' : trailingSettings.validate = .ok trailingSettings := by decide +kernel
  have hrun : (schemaOf crossUnits).isOk = true := by decide +kernel
  obtain ⟨sd, hsd⟩ := Outcome.exists_eq_ok hrun
  obtain ⟨hinter, -⟩ := @assemble_header sd.1 crossUnits none none _ _ h h' rfl
  exact ⟨h, h', sd, hsd, hinter.mpr (.inr (by decide +kernel))⟩

/-- A unit with a record of one field. -/
def numberUnit : SourceUnit where
  path := ⟨"", ["types.py"]⟩
  moduleName := "types"
  inPackage := false
  records := [⟨"A", [numberField], "types.py", 2⟩]

/-- Settings with a header that does not end with its comment. -/
def spilledSettings : Settings := { header := "#\r)" }

/-- No text is read that begins with a closing bracket. -/
theorem lex_closing (cs : List Char) : lex true ('\r' :: ')' :: cs) = none := by
  have hreturns : joinReturns ('\r' :: ')' :: cs) = '\n' :: ')' :: joinReturns cs := rfl
  obtain ⟨back, hback⟩ := exists_endLine_eq ('\n' :: ')' :: joinReturns cs)
  unfold lex
  simp only [if_true, hreturns, hback, List.cons_append]
  split
  · rfl
  · rfl

/-- What stands behind a carriage return in a header is code. Were every text accepted, the outputs
would differ below their first lines; and no text that begins with this header is accepted. -/
theorem not_interchangeable_spilled : ({} : Settings).validate = .ok {} ∧
    spilledSettings.validate = .ok spilledSettings ∧
    ∃ sd, schemaOf [numberUnit] = .ok sd ∧
      ∃ outs outs', assemble (fun _ => true) sd.1 [numberUnit] none none {} = .ok outs ∧
        assemble (fun _ => true) sd.1 [numberUnit] none none spilledSettings = .ok outs' ∧
        ¬List.Forall₂ Output.Matches outs outs' ∧
        ∀ out ∈ outs', Source.accepts out.text = false := by
  have h : ({} : Settings).validate = .ok {} := by decide +kernel
  have h' : spilledSettings.validate = .ok spilledSettings := by decide +kernel
  have hrun : ∃ sd, schemaOf [numberUnit] = .ok sd ∧
      (assemble (fun _ => true) sd.1 [numberUnit] none none {}).isOk = true ∧
      (assemble (fun _ => true) sd.1 [numberUnit] none none spilledSettings).isOk = true := by
    simp only [assemble, Plan.ofUnits, Plan.sortUnits, List.mergeSort_singleton]
    decide +kernel
  obtain ⟨sd, hsd, hok, hok'⟩ := hrun
  obtain ⟨outs, houts⟩ := Outcome.exists_eq_ok hok
  obtain ⟨outs', houts'⟩ := Outcome.exists_eq_ok hok'
  refine ⟨h, h', sd, hsd, outs, outs', houts, houts', fun hmatches => ?_, fun out hout => ?_⟩
  · have hcode := (Assembly.forall₂_matches_iff h h' rfl houts houts').mp hmatches
    exact absurd hcode (by decide +kernel)
  · obtain ⟨modules, -, -, -, rfl⟩ := (Assembly.assemble_eq_ok_iff h').mp houts'
    obtain ⟨m, -, rfl⟩ := List.mem_map.mp hout
    have hcode : spilledSettings.headerCode = ['\r', ')'] := by decide +kernel
    rw [Source.accepts, m.lex_under h' (by decide +kernel), hcode, List.cons_append,
      List.singleton_append, lex_closing]
    rfl

end

end SszSchema
