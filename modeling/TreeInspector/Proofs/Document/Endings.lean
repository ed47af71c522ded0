import TreeInspector.Proofs.Document.Reading

/-! # Where documents end

A value that is no number shows its own end: the reader takes the same value from the start of a text
whatever follows it. A document or a bare tree is never a number, so a text that is read has no other
continuations that are read than blanks, and those give the same document. Any other continuation is found
behind the document, after it was taken as one, and refused at its first character that is no blank.
-/

namespace TreeInspector

namespace Json

/-- What follows a value does not matter to reading it, unless a number could go on with it. -/
theorem readValue_append {value : Value} {text rest : List Char}
    (read : readValue text = .ok (value, rest)) {suffix : List Char}
    (apart : Reader.Apart value (rest ++ suffix)) :
    readValue (text ++ suffix) = .ok (value, rest ++ suffix) := by
  obtain ⟨gap, written, blanks, isWritten, rfl⟩ := (Reader.readsWritten _).value read
  have again := (Reader.readsBack ((gap ++ (written ++ (rest ++ suffix))).length + 1)).value isWritten
    blanks apart (Nat.lt_succ_self _)
  rwa [readValue, List.append_assoc, List.append_assoc]

/-- Blanks in front do not matter to what is refused behind them. -/
theorem expectEnd_append {gap : List Char} (blanks : Blanks gap) (text : List Char) :
    expectEnd (gap ++ text) = expectEnd text := by
  rw [expectEnd, expectEnd, Reader.skipSpace_append blanks]

/-- What is left behind the blanks does not start with one. -/
theorem not_isSpace_of_skipSpace {text rest : List Char} {c : Char}
    (start : Reader.skipSpace text = c :: rest) : Reader.isSpace c = false := by
  have headed : (text.dropWhile Reader.isSpace).head? = some c := by
    rw [← Reader.skipSpace, start, List.head?_cons]
  have visible := List.head?_dropWhile_not Reader.isSpace text
  rw [headed] at visible
  exact visible

/-- The first character that is no blank is refused. -/
theorem expectEnd_of_not_blanks {text : List Char} (more : ¬Blanks text) : ∃ gap c rest,
    Blanks gap ∧ ¬Blanks [c] ∧ text = gap ++ c :: rest ∧
      expectEnd text = .error ⟨.trailingCharacters, c :: rest, 1⟩ := by
  obtain ⟨gap, blanks, split⟩ := Reader.exists_skipSpace text
  cases start : Reader.skipSpace text with
  | nil => exact absurd ((Reader.skipSpace_eq_nil_iff text).mp start) more
  | cons c rest =>
    rw [start] at split
    refine ⟨gap, c, rest, blanks, ?_, split, ?_⟩
    · intro blank
      have space := (Reader.isSpace_iff c).mpr (blank c (List.mem_singleton_self c))
      rw [not_isSpace_of_skipSpace start] at space
      exact Bool.false_ne_true space
    · rw [expectEnd, start]
      rfl

end Json

namespace Document

open Json (Blanks Value)

/-- The errors of texts outside the grammar that do not just end too early; a value that is no document is
none of them. -/
def ReadError.breaksGrammar : ReadError → Bool
  | .malformed fault => !fault.cause.isEnd
  | .mismatch => false

/-- No document and no tree is a number. -/
theorem interpret?_number (literal : Json.Literal) : interpret? (.number literal) = none := by
  simp [interpret?, ofValue?, tree?]

/-- Whatever is taken as a document shows its own end. -/
theorem apart_of_interpret? {value : Value} {document : Document}
    (taken : interpret? value = some document) (rest : List Char) : Json.Reader.Apart value rest := by
  rintro literal rfl
  rw [interpret?_number] at taken
  cases taken

/-- Behind a text that is read, only the end of the text is left to be found. -/
theorem readChars_append {text : List Char} {document : Document} (read : readChars text = .ok document)
    (suffix : List Char) : readChars (text ++ suffix) =
      (Json.expectEnd suffix).mapError .malformed >>= fun _ => .ok document := by
  obtain ⟨value, rest, found, taken, blanks⟩ := (readChars_eq_ok_iff text document).mp read
  have longer := Json.readValue_append found (apart_of_interpret? taken (rest ++ suffix))
  rw [readChars_of_readValue longer taken, Json.expectEnd_append blanks]

/-- How a text that is read as a document goes on. -/
structure Closed (text : String) (document : Document) : Prop where
  /-- The text is read on with blanks behind it, and with nothing else. -/
  continued : ∀ suffix : String, (∃ longer, read (text ++ suffix) = .ok longer) ↔ Blanks suffix.toList
  /-- Blanks do not change the document. -/
  unchanged : ∀ (suffix : String) (longer : Document), read (text ++ suffix) = .ok longer →
    longer = document
  /-- Anything else breaks the grammar, and is refused at its first character that is no blank. -/
  refused : ∀ (suffix : String) (error : ReadError), read (text ++ suffix) = .error error →
    error.breaksGrammar = true ∧ ∃ gap c rest, Blanks gap ∧ ¬Blanks [c] ∧
      suffix.toList = gap ++ c :: rest ∧ error = .malformed ⟨.trailingCharacters, c :: rest, 1⟩
  /-- Every text that is read and starts with this one only adds blanks, and is the same document. -/
  alone : ∀ (other : String) (longer : Document), read other = .ok longer →
    text.toList <+: other.toList →
      longer = document ∧ ∃ suffix : String, Blanks suffix.toList ∧ other = text ++ suffix

section Closed

variable {text : String} {document : Document} (accepted : read text = .ok document)
include accepted

theorem read_append_eq (suffix : String) : read (text ++ suffix) =
    (Json.expectEnd suffix.toList).mapError .malformed >>= fun _ => .ok document := by
  rw [read, String.toList_append]
  exact readChars_append accepted suffix.toList

theorem read_append_of_blanks {suffix : String} (blanks : Blanks suffix.toList) :
    read (text ++ suffix) = .ok document := by
  rw [read_append_eq accepted, (Json.expectEnd_eq_ok_iff _).mpr blanks]
  rfl

theorem blanks_of_read_append {suffix : String} {longer : Document}
    (read : read (text ++ suffix) = .ok longer) : Blanks suffix.toList := by
  rw [read_append_eq accepted] at read
  cases ended : Json.expectEnd suffix.toList with
  | error fault =>
    rw [ended] at read
    cases read
  | ok => exact (Json.expectEnd_eq_ok_iff _).mp ended

/-- A text that is read can be continued by blanks only, and stays the same document. -/
theorem closed_of_read : Closed text document where
  continued suffix :=
    ⟨fun ⟨_, read⟩ => blanks_of_read_append accepted read,
      fun blanks => ⟨document, read_append_of_blanks accepted blanks⟩⟩
  unchanged suffix longer read := by
    have same := read_append_of_blanks accepted (blanks_of_read_append accepted read)
    rw [read] at same
    exact Except.ok.inj same
  refused suffix error failed := by
    have more : ¬Blanks suffix.toList := by
      intro blanks
      rw [read_append_of_blanks accepted blanks] at failed
      cases failed
    obtain ⟨gap, c, rest, blanks, visible, split, ended⟩ := Json.expectEnd_of_not_blanks more
    rw [read_append_eq accepted, ended] at failed
    cases failed
    exact ⟨rfl, gap, c, rest, blanks, visible, split, rfl⟩
  alone other longer read starts := by
    obtain ⟨suffix, together⟩ := starts
    have whole : other = text ++ String.ofList suffix := by
      rw [← String.toList_inj, String.toList_append, String.toList_ofList, together]
    rw [whole] at read
    have blanks := blanks_of_read_append accepted read
    have same := read_append_of_blanks accepted blanks
    rw [read] at same
    exact ⟨Except.ok.inj same, String.ofList suffix, blanks, whole⟩

end Closed

/-- A document with a token and a failed rule below its root. -/
def failedSum : Document := ⟨⟨["sum"]⟩, .rule 0 none [.token "1", .rule 3 (some "no") []]⟩

theorem closed_of_read_failedSum : read failedSum.print = .ok failedSum ∧
    Closed failedSum.print failedSum := by
  have accepted : read failedSum.print = .ok failedSum := by
    rw [read, print, readChars_of_isText (Json.isText_print (valid_toValue failedSum)),
      outcome_eq_ok_iff, interpret?, ofValue?_toValue, Option.some_or]
  exact ⟨accepted, closed_of_read accepted⟩

end Document

end TreeInspector
