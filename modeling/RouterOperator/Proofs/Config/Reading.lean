import RouterOperator.Config.Stanza

/-!
# Reading a configuration back

The text of a configuration is put together in three layers: lines into stanzas, stanzas into
sections, sections into the whole. Each layer has a mark of its own that nothing inside it contains:
a closing brace on a line by itself, an empty line, the end of a line. So a reader takes the text
apart in the opposite order, and it finds every configuration whose texts are free of line breaks.
-/

namespace RouterOperator

/-- A text that stays on its line. -/
def Text.SingleLine (text : String) : Prop := '\n' ∉ text.toList

/-- A text without blanks, colons and line breaks. -/
def Text.IsWord (text : String) : Prop :=
  ∀ char ∈ text.toList, char ≠ ' ' ∧ char ≠ ':' ∧ char ≠ '\n'

instance (text : String) : Decidable (Text.SingleLine text) :=
  inferInstanceAs (Decidable ('\n' ∉ text.toList))

instance (text : String) : Decidable (Text.IsWord text) :=
  List.decidableBAll (fun char => char ≠ ' ' ∧ char ≠ ':' ∧ char ≠ '\n') text.toList

theorem Text.IsWord.singleLine {text : String} (h : IsWord text) : SingleLine text :=
  fun hmem => (h _ hmem).2.2 rfl

theorem Text.singleLine_append {first second : String} :
    SingleLine (first ++ second) ↔ SingleLine first ∧ SingleLine second := by
  rw [SingleLine, String.toList_append, List.mem_append, not_or]
  rfl

section marks

variable {α : Type}

/-- Blocks that each follow a mark, as blocks between marks. -/
theorem append_flatMap_eq_intercalate (mark : α) (first : List α) (blocks : List (List α)) :
    first ++ blocks.flatMap (mark :: ·) = [mark].intercalate (first :: blocks) := by
  induction blocks generalizing first with
  | nil => simp
  | cons block rest ih =>
      rw [List.intercalate_cons_cons, ← ih block, List.flatMap_cons]
      simp

variable [BEq α] [LawfulBEq α] {mark : α} {first : List α} {blocks : List (List α)}

theorem splitOn_append_flatMap (hfirst : mark ∉ first) (h : ∀ block ∈ blocks, mark ∉ block) :
    (first ++ blocks.flatMap (mark :: ·)).splitOn mark = first :: blocks := by
  rw [append_flatMap_eq_intercalate]
  refine List.splitOn_intercalate mark ?_ (List.cons_ne_nil _ _)
  rw [List.forall_mem_cons]
  exact ⟨hfirst, h⟩

/-- Blocks that each end with a mark leave an empty one behind the last mark. -/
theorem splitOn_flatMap_concat (h : ∀ block ∈ blocks, mark ∉ block) :
    (blocks.flatMap (· ++ [mark])).splitOn mark = blocks ++ [[]] := by
  have hblocks : blocks.flatMap (· ++ [mark]) = [mark].intercalate (blocks ++ [[]]) := by
    clear h
    induction blocks with
    | nil => rfl
    | cons block rest ih =>
        rw [List.flatMap_cons, ih]
        cases rest <;> simp [List.intercalate_cons_cons]
  rw [hblocks]
  refine List.splitOn_intercalate mark ?_ (by simp)
  rw [List.forall_mem_append, List.forall_mem_singleton]
  exact ⟨h, List.not_mem_nil⟩

end marks

namespace Stanza

/-- The line that ends a stanza. -/
def closing : List Char := ['\x7d']

/-- The line that begins a stanza. -/
def header (stanza : Stanza) : List Char := stanza.kind.toList ++ [' ', '\x7b']

/-- The line of an attribute. -/
def line (stanza : Stanza) (entry : String × String) : List Char :=
  stanza.indent.toList ++ (entry.1.toList ++ (':' :: ' ' :: entry.2.toList))

/-- The lines of a stanza, but for the closing one. -/
def lines (stanza : Stanza) : List (List Char) :=
  stanza.header :: stanza.attributes.map stanza.line

/-- The kind and the names are words, and the values stay on their lines. -/
structure IsPlain (stanza : Stanza) : Prop where
  kind : Text.IsWord stanza.kind
  names : ∀ entry ∈ stanza.attributes, Text.IsWord entry.1
  values : ∀ entry ∈ stanza.attributes, Text.SingleLine entry.2

/-- Reads an attribute from its line. -/
def readEntry (line : List Char) : String × String :=
  let entry := line.dropWhile (· = ' ')
  (String.ofList (entry.takeWhile (· ≠ ':')),
    String.ofList ((entry.dropWhile (· ≠ ':')).drop 2))

/-- Reads a stanza from its lines. -/
def read : List (List Char) → Stanza
  | [] => { kind := "", attributes := [] }
  | header :: rest =>
    { kind := String.ofList (header.takeWhile (· ≠ ' ')), attributes := rest.map readEntry }

variable {stanza : Stanza}

theorem toList_text (stanza : Stanza) :
    stanza.text.toList = (stanza.lines ++ [closing]).flatMap ('\n' :: ·) := by
  simp only [text, lines, header, line, closing, String.toList_append, String.toList_join,
    List.cons_append, List.flatMap_cons, List.flatMap_append, List.flatMap_map, List.flatMap_nil,
    List.append_nil, List.append_assoc]
  rfl

theorem eq_blank_of_mem_indent (stanza : Stanza) : ∀ char ∈ stanza.indent.toList, char = ' ' := by
  intro char hchar
  unfold indent at hchar
  split at hchar
  · exact List.eq_of_mem_replicate (n := 3) hchar
  · exact List.eq_of_mem_replicate (n := 4) hchar

/-- A line of an attribute begins with a blank. -/
theorem exists_line_eq (stanza : Stanza) (entry : String × String) :
    ∃ rest, stanza.line entry = ' ' :: rest := by
  cases hindent : stanza.indent.toList with
  | nil =>
      unfold indent at hindent
      split at hindent <;> simp at hindent
  | cons char rest =>
      have hblank := stanza.eq_blank_of_mem_indent char (by simp [hindent])
      exact ⟨_, by rw [line, hindent, hblank]; rfl⟩

theorem nil_notMem_lines (stanza : Stanza) : [] ∉ stanza.lines := by
  rw [lines, List.mem_cons, List.mem_map, not_or]
  constructor
  · simp [header]
  · rintro ⟨entry, -, hline⟩
    obtain ⟨rest, hrest⟩ := stanza.exists_line_eq entry
    rw [hrest] at hline
    cases hline

theorem closing_notMem_lines (stanza : Stanza) : closing ∉ stanza.lines := by
  rw [lines, List.mem_cons, List.mem_map, not_or]
  constructor
  · intro hheader
    have hlength := congrArg List.length hheader
    simp [closing, header] at hlength
  · rintro ⟨entry, -, hline⟩
    obtain ⟨rest, hrest⟩ := stanza.exists_line_eq entry
    rw [hrest] at hline
    exact absurd (List.head_eq_of_cons_eq hline) (by decide)

theorem IsPlain.break_notMem (h : stanza.IsPlain) : ∀ line ∈ stanza.lines, '\n' ∉ line := by
  have hkind : '\n' ∉ stanza.kind.toList := h.kind.singleLine
  have hindent : '\n' ∉ stanza.indent.toList :=
    fun hmem => absurd (stanza.eq_blank_of_mem_indent _ hmem) (by decide)
  rw [lines, List.forall_mem_cons, List.forall_mem_map]
  refine ⟨by simp [header, hkind], fun entry hentry => ?_⟩
  have hname : '\n' ∉ entry.1.toList := (h.names entry hentry).singleLine
  have hvalue : '\n' ∉ entry.2.toList := h.values entry hentry
  simp [line, hindent, hname, hvalue]

theorem IsPlain.readEntry_line (h : stanza.IsPlain) {entry : String × String}
    (hentry : entry ∈ stanza.attributes) : readEntry (stanza.line entry) = entry := by
  have hnames := h.names entry hentry
  have hblanks : ∀ char ∈ stanza.indent.toList, decide (char = ' ') = true := by
    simpa using stanza.eq_blank_of_mem_indent
  have hname : ∀ char ∈ entry.1.toList, decide (char ≠ ':') = true := by
    intro char hchar
    simpa using (hnames char hchar).2.1
  have hrest : (stanza.line entry).dropWhile (· = ' ') =
      entry.1.toList ++ (':' :: ' ' :: entry.2.toList) := by
    rw [line, List.dropWhile_append_of_pos hblanks]
    cases hchars : entry.1.toList with
    | nil => rfl
    | cons char rest =>
        have hchar := (hnames char (by simp [hchars])).1
        simp [hchar]
  unfold readEntry
  dsimp only
  rw [hrest, List.takeWhile_append_of_pos hname, List.dropWhile_append_of_pos hname]
  simp

theorem IsPlain.read_lines (h : stanza.IsPlain) : read stanza.lines = stanza := by
  have hkind : stanza.header.takeWhile (· ≠ ' ') = stanza.kind.toList := by
    have hchars : ∀ char ∈ stanza.kind.toList, decide (char ≠ ' ') = true := by
      intro char hchar
      simpa using (h.kind char hchar).1
    rw [header, List.takeWhile_append_of_pos hchars]
    simp
  have hattributes : (stanza.attributes.map stanza.line).map readEntry = stanza.attributes := by
    rw [List.map_map]
    exact (List.map_congr_left fun entry hentry => h.readEntry_line hentry).trans (List.map_id _)
  rw [lines, read, hkind, hattributes, String.ofList_toList]

end Stanza

namespace RouterConfig

/-- The lines of a section. -/
def sectionLines (stanzas : List Stanza) : List (List Char) :=
  (stanzas.map Stanza.lines).flatMap (· ++ [Stanza.closing])

/-- The lines of a configuration. An empty one precedes every section. -/
def lines (config : RouterConfig) : List (List Char) :=
  sectionLines [config.router] ++ (config.sections.map sectionLines).flatMap ([] :: ·)

/-- There are sections, and every text stays on its line. -/
structure IsPlain (config : RouterConfig) : Prop where
  mode : Text.SingleLine config.mode
  nonempty : config.sections ≠ []
  stanzas : ∀ stanzas ∈ config.sections, ∀ stanza ∈ stanzas, stanza.IsPlain

/-- Reads the stanzas of a section from its lines. -/
def readSection (lines : List (List Char)) : List Stanza :=
  (lines.splitOn Stanza.closing).dropLast.map Stanza.read

/-- Reads a configuration. The router comes first, in a section of its own. -/
def read (text : String) : RouterConfig :=
  let sections := ((text.toList.splitOn '\n').tail.splitOn []).map readSection
  let router := sections.head?.bind List.head?
  { mode := (router.bind (·.attribute? "mode")).getD "", sections := sections.tail }

variable {config : RouterConfig}

theorem toList_sectionText (stanzas : List Stanza) :
    (sectionText stanzas).toList = (sectionLines stanzas).flatMap ('\n' :: ·) := by
  rw [sectionText, sectionLines, String.toList_join, List.flatMap_map, List.flatMap_map,
    List.flatMap_assoc]
  exact congrArg (List.flatMap · stanzas) (funext Stanza.toList_text)

theorem toList_text (h : config.sections ≠ []) :
    config.text.toList = config.lines.flatMap ('\n' :: ·) := by
  obtain ⟨first, rest, hsections⟩ := List.exists_cons_of_ne_nil h
  have hrouter : config.router.text.toList =
      (sectionLines [config.router]).flatMap ('\n' :: ·) := by
    rw [Stanza.toList_text]
    simp [sectionLines]
  have hjoined : "\n".toList ++ (String.intercalate "\n" (config.sections.map sectionText)).toList =
      ((config.sections.map sectionLines).flatMap ([] :: ·)).flatMap ('\n' :: ·) := by
    have hmark : "\n".toList = ['\n'] := rfl
    rw [String.toList_intercalate, hmark, hsections, List.map_cons, List.map_cons,
      ← append_flatMap_eq_intercalate]
    simp [List.flatMap_assoc, List.flatMap_map, toList_sectionText, Function.comp_def]
  rw [text, String.toList_append, String.toList_append, List.append_assoc, hrouter, hjoined, lines,
    List.flatMap_append]

theorem IsPlain.router (h : config.IsPlain) : config.router.IsPlain := by
  have hkind : Text.IsWord "router" := by decide
  have hidentity : Text.SingleLine "$\x7bHOSTNAME\x7d" := by decide
  refine ⟨hkind, ?_, ?_⟩
  · simp only [RouterConfig.router, List.forall_mem_cons, List.not_mem_nil, false_imp_iff,
      implies_true, and_true]
    decide
  · simpa [RouterConfig.router] using ⟨h.mode, hidentity⟩

theorem break_notMem_sectionLines {stanzas : List Stanza}
    (h : ∀ stanza ∈ stanzas, stanza.IsPlain) : ∀ line ∈ sectionLines stanzas, '\n' ∉ line := by
  simp only [sectionLines, List.flatMap_map, List.mem_flatMap, List.mem_append,
    List.mem_singleton, forall_exists_index, and_imp]
  intro line stanza hstanza hline
  rcases hline with hline | rfl
  · exact (h stanza hstanza).break_notMem line hline
  · decide

theorem nil_notMem_sectionLines (stanzas : List Stanza) : [] ∉ sectionLines stanzas := by
  simp only [sectionLines, List.flatMap_map, List.mem_flatMap, List.mem_append,
    List.mem_singleton, not_exists, not_and, not_or]
  exact fun stanza _ => ⟨stanza.nil_notMem_lines, by decide⟩

theorem readSection_sectionLines {stanzas : List Stanza}
    (h : ∀ stanza ∈ stanzas, stanza.IsPlain) : readSection (sectionLines stanzas) = stanzas := by
  have hclosing : ∀ lines ∈ stanzas.map Stanza.lines, Stanza.closing ∉ lines := by
    rw [List.forall_mem_map]
    exact fun stanza _ => stanza.closing_notMem_lines
  rw [readSection, sectionLines, splitOn_flatMap_concat hclosing, List.dropLast_concat,
    List.map_map]
  exact (List.map_congr_left fun stanza hstanza => (h stanza hstanza).read_lines).trans
    (List.map_id _)

/-- A plain configuration is read back from its text. -/
theorem IsPlain.read_text (h : config.IsPlain) : read config.text = config := by
  have hlines : config.text.toList.splitOn '\n' = [] :: config.lines := by
    rw [toList_text h.nonempty]
    change ([] ++ config.lines.flatMap ('\n' :: ·)).splitOn '\n' = _
    refine splitOn_append_flatMap List.not_mem_nil ?_
    simp only [lines, List.flatMap_map, List.mem_append, List.mem_flatMap, List.mem_cons]
    rintro line (hline | ⟨stanzas, hstanzas, rfl | hline⟩)
    · exact break_notMem_sectionLines (by simpa using h.router) line hline
    · exact List.not_mem_nil
    · exact break_notMem_sectionLines (h.stanzas stanzas hstanzas) line hline
  have hblank : ∀ lines ∈ config.sections.map sectionLines, [] ∉ lines := by
    rw [List.forall_mem_map]
    exact fun stanzas _ => nil_notMem_sectionLines stanzas
  have hsections : (config.sections.map sectionLines).map readSection = config.sections := by
    rw [List.map_map]
    exact (List.map_congr_left fun stanzas hstanzas =>
      readSection_sectionLines (h.stanzas stanzas hstanzas)).trans (List.map_id _)
  have hrouter : readSection (sectionLines [config.router]) = [config.router] :=
    readSection_sectionLines (by simpa using h.router)
  unfold read
  dsimp only
  rw [hlines, List.tail_cons, lines, splitOn_append_flatMap (nil_notMem_sectionLines _) hblank,
    List.map_cons, hrouter, hsections]
  rfl

end RouterConfig

end RouterOperator
