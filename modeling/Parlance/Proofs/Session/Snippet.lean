import Parlance.Proofs.Running.Quoting
import Parlance.Proofs.Session.Origin
import Parlance.Proofs.Text.Rows

/-!
What reports quote. A failure that lies in the source shows the line of its number there; that is
the row which its place lies in, if no row up to there is broken, and then a mark under a token
stands below the first character of it. Main statement: `Session.quoted_row_iff`.
-/

namespace Parlance

namespace Location

/-- The report shows the row below its heading, or nothing if the row is empty. -/
def Shows (location : Location) (row : List Char) : Prop :=
  location.text =
    if row = [] then location.heading
    else location.heading ++ "\n" ++ location.excerpt (String.ofList row)

/-- The report has a mark below the character. -/
def Marks (location : Location) (c : Char) : Prop :=
  ∃ top indent, location.text =
      location.heading ++ "\n" ++
        (top ++ "\n" ++ String.ofList (List.replicate indent ' ') ++ "^") ∧
    top.toList[indent]? = some c

theorem text_eq (location : Location) :
    location.text =
      if location.snippet.getD "" = "" then location.heading
      else location.heading ++ "\n" ++ location.excerpt (location.snippet.getD "") := by
  unfold text
  split <;> simp_all

theorem excerpt_injective (location : Location) : Function.Injective location.excerpt := by
  intro snippet other same
  simpa [excerpt] using same

theorem shows_iff {location : Location} {row : List Char} :
    location.Shows row ↔ location.snippet.getD "" = String.ofList row := by
  -- a heading is told from a heading with an excerpt by the length
  have longer (below : String) : location.heading ≠ location.heading ++ "\n" ++ below := by
    intro same
    have lengths := congrArg String.length same
    rw [String.length_append, String.length_append] at lengths
    have feed : "\n".length = 1 := rfl
    omega
  have empty : row = [] ↔ String.ofList row = "" := by simp
  rw [Shows, text_eq]
  generalize location.snippet.getD "" = shown
  simp only [empty]
  generalize String.ofList row = expected
  split
  case isTrue none =>
    subst none
    split
    · simp_all
    case isFalse some' => exact iff_of_false (longer _) (Ne.symm some')
  case isFalse some' =>
    split
    case isTrue none => exact iff_of_false (longer _).symm (none ▸ some')
    · rw [String.append_right_inj, location.excerpt_injective.eq_iff]

/-- What the report shows at a column stands above the mark. -/
theorem Shows.marks {place : Place} {source : String} {name : Option String} {row : List Char}
    (shows : (ofPlace place (some source) name).Shows row) (column : 0 < place.column) {c : Char}
    (here : row[place.column - 1]? = some c) : (ofPlace place (some source) name).Marks c := by
  have filled : row ≠ [] := by
    rintro rfl
    cases here
  rw [Shows, if_neg filled] at shows
  -- the row and the mark stand behind margins of the same width
  let margin := fieldOf place.line ++ " | "
  have indent : ((margin.length : Int) + place.column - 1).toNat =
      margin.toList.length + (place.column - 1) := by
    rw [String.length_toList]
    omega
  refine ⟨margin ++ String.ofList row, margin.toList.length + (place.column - 1), ?_, ?_⟩
  · rw [shows, ← indent]
    rfl
  · rw [String.toList_append, String.toList_ofList,
      List.getElem?_append_right (Nat.le_add_right _ _), Nat.add_sub_cancel_left, here]

end Location

namespace Session

variable {session : Session} {depth rounds : Nat} {source : String} {sourceName : Option String}
  {failure : Failure}

theorem runIn_quotes {around : Surroundings} {program : Program}
    (failed : (session.runIn around depth program).result = .error failure) :
    failure.Quotes around := by
  simp only [runIn] at failed
  split at failed
  · split at failed <;> cases failed
    rename_i left
    exact Evaluation.onArena_quotes left
  · rename_i result
    split at failed <;> cases failed
    · exact Program.run_quotes result
    · rename_i left
      exact Evaluation.onArena_quotes left

theorem execution_quotes
    (failed : (session.executeWithin depth rounds source sourceName).result = .error failure)
    (inSource : failure.cause.InSource) :
    ∃ place name, failure.location = some (.ofPlace place (some source) name) := by
  simp only [executeWithin, parse] at failed
  cases result : session.read source sourceName with
  | error other =>
      rw [result] at failed
      cases failed
      obtain ⟨_, place, named, rfl, _⟩ := read_refused result
      exact ⟨place, named, rfl⟩
  | ok read =>
      rw [result] at failed
      obtain ⟨place, location⟩ := runIn_quotes failed inSource
      exact ⟨place, sourceName, location⟩

/-- The line of a number is what a report shows of it. -/
theorem shows_line_iff (place : Place) (source : String) (name : Option String) (row : List Char) :
    (Location.ofPlace place (some source) name).Shows row ↔
      Text.lineAt source.toList place.line = row := by
  have line : (Source.mk source name).lineAt place =
      String.ofList (Text.lineAt source.toList place.line) := by
    obtain ⟨number, column⟩ := place
    cases number with
    | zero => rfl
    | succ number =>
        simp only [Source.lineAt, Text.lines, Text.lineAt, List.getElem?_map]
        cases (Text.linesFrom [] source.toList)[number]? <;> rfl
  rw [Location.shows_iff, Location.snippet_ofPlace ⟨source, name⟩, line, String.ofList_inj]

/-- A failure that lies in the source shows the line of its number and nothing else. This is the row
that it points to, and those of smaller numbers would be the rows before it, exactly if none of
these rows is broken by an end of a line other than the line feed. Where the row is shown, the mark
under a token stands below the first character of that. -/
theorem quoted_row_iff
    (failed : (session.executeWithin depth rounds source sourceName).result = .error failure)
    (inSource : failure.cause.InSource) :
    ∃ place name,
      let location (line : Nat) := Location.ofPlace ⟨line, place.column⟩ (some source) name
      let row := Text.rowAt source.toList
      failure.location = some (location place.line) ∧
      (∀ shown, (location place.line).Shows shown ↔
        Text.lineAt source.toList place.line = shown) ∧
      ((∀ line ≤ place.line, (location line).Shows (row line)) ↔
        ∀ line ≤ place.line, Text.Unbroken (row line)) ∧
      ((location place.line).Shows (row place.line) → ∀ token ∈ Token.scan source,
        token.kind ≠ .finish → token.place = place →
          ∃ c, source.toList[token.offset]? = some c ∧ (location place.line).Marks c) := by
  obtain ⟨place, name, quotes⟩ := execution_quotes failed inSource
  refine ⟨place, name, quotes, shows_line_iff place source name, ?_,
    fun shows token member real here => ?_⟩
  · simp only [shows_line_iff]
    exact Text.lineAt_eq_rowAt_iff source.toList place.line
  · obtain rfl := here
    obtain ⟨tokens, finish, found, ends, cut⟩ := Token.scan_closed source
    have inner : token ∈ tokens := by
      rw [found] at member
      rcases List.mem_append.mp member with inner | last
      · exact inner
      · exact absurd (List.mem_singleton.mp last ▸ ends) real
    have cutFrom := (cut token inner).2
    obtain ⟨c, begins, feed, other⟩ := cutFrom.head
    -- a token begins with no end of a line, so its column is within its row
    have column := Text.rowAt_behind begins feed other
    rw [← cutFrom.place] at column
    refine ⟨c, begins, shows.marks ?_ column⟩
    rw [cutFrom.place]
    exact Nat.succ_pos _

/-- The carriage return before the line feed is not shown, and does not shift the rows. -/
theorem returned_row_quoted :
    let source := "let a = 1\r\nsay y"
    let failure : Failure := .quoting ⟨source, none⟩ (.unresolvedName "y") ⟨2, 5⟩
    ((ofSettings strictly).execute source none).result = .error failure ∧
      failure.cause.InSource ∧
      ∃ place name,
        let location (line : Nat) := Location.ofPlace ⟨line, place.column⟩ (some source) name
        let row := Text.rowAt source.toList
        failure.location = some (location place.line) ∧
        (∀ shown, (location place.line).Shows shown ↔
          Text.lineAt source.toList place.line = shown) ∧
        ((∀ line ≤ place.line, (location line).Shows (row line)) ↔
          ∀ line ≤ place.line, Text.Unbroken (row line)) ∧
        ((location place.line).Shows (row place.line) → ∀ token ∈ Token.scan source,
          token.kind ≠ .finish → token.place = place →
            ∃ c, source.toList[token.offset]? = some c ∧ (location place.line).Marks c) := by
  intro source failure
  have ran : ((ofSettings strictly).execute source none).failure? = some failure := by
    decide +kernel
  have failed := result_of_failure? ran
  exact ⟨failed, trivial, quoted_row_iff failed trivial⟩

/-- A form feed in a comment ends a line, but no row: the report shows the end of the comment. -/
theorem row_behind_form_feed_not_quoted :
    let source := "// a\x0cb\nsay y"
    ∃ failure location,
      ((ofSettings strictly).execute source none).result = .error failure ∧
      failure.cause.InSource ∧ failure.location = some location ∧
      location.line = 2 ∧ location.column = 5 ∧
      Text.rowAt source.toList 2 = "say y".toList ∧ location.snippet = some "b" ∧
      ¬ location.Shows (Text.rowAt source.toList 2) := by
  intro source
  have ran : ((ofSettings strictly).execute source none).failure? =
      some (.quoting ⟨source, none⟩ (.unresolvedName "y") ⟨2, 5⟩) := by decide +kernel
  refine ⟨_, _, result_of_failure? ran, trivial, rfl, rfl, rfl, by decide +kernel,
    by decide +kernel, fun shows => ?_⟩
  have other := shows_line_iff .. |>.mp shows
  revert other
  decide +kernel

end Session

end Parlance
