import CallDiagram.Proofs.CallSite.Listing

/-! # What can go wrong in a reading

A text is read at any positions, also at such that it does not have. Only a missing line stops a
reading: the look-ahead for a parenthesis asks for lines that exist, and characters beside a line
count as its nearest ones. Signatures take the place of the arguments and of nothing else.
-/

namespace CallDiagram

def SiteReading.withoutArguments (reading : SiteReading) : SiteReading :=
  { reading with arguments := "" }

/-- A signature takes the place of the arguments and of nothing else. -/
theorem Document.readSite_withoutArguments (d : Document) (tokens : List String) (name : Range)
    (signature : Option (Document × Range)) :
    (d.readSite tokens name signature).1.withoutArguments =
      (d.readCall tokens name).1.withoutArguments := by
  rw [readSite]
  cases signature with
  | none => rfl
  | some declaration =>
      dsimp only
      split
      · rfl
      · split <;> rfl

/-! ## Missing lines -/

namespace Document

variable {d : Document} {name : Range} {e : DocumentError}

theorem lineAt_eq_error {line : Int} (failed : d.lineAt line = .error e) :
    e = .noLine line d.lineCount := by
  cases line with
  | ofNat n =>
      cases known : d.lines[n]? with
      | some cs => simp [lineAt, known] at failed
      | none =>
          simp only [lineAt, known] at failed
          exact (Except.error.inj failed).symm
  | negSucc n => exact (Except.error.inj failed).symm

theorem lineAt_of_lt {n : Nat} (bound : n < d.lineCount) : ∃ cs, d.lineAt n = .ok cs := by
  obtain ⟨cs, known⟩ : ∃ cs, d.lines[n]? = some cs := ⟨_, List.getElem?_eq_getElem bound⟩
  exact ⟨cs, by simp only [lineAt, known]⟩

theorem bounds_of_lineAt {line : Int} {cs : List Char} (known : d.lineAt line = .ok cs) :
    0 ≤ line ∧ line < d.lineCount := by
  cases line with
  | ofNat n =>
      refine ⟨Int.natCast_nonneg n, Int.ofNat_lt.mpr (Nat.lt_of_not_le fun beyond => ?_)⟩
      have absent : d.lines[n]? = none := List.getElem?_eq_none beyond
      simp [lineAt, absent] at known
  | negSucc n => cases known

theorem offsetAt_eq_error {p : Position} (failed : d.offsetAt p = .error e) :
    e = .noLine p.line d.lineCount := by
  cases found : d.lineAt p.line with
  | ok cs => simp [offsetAt, found, Except.map] at failed
  | error e' =>
      simp only [offsetAt, found, Except.map, Except.error.injEq] at failed
      rw [← failed]
      exact lineAt_eq_error found

/-- The line behind an existing one, or else the last line, has an end. -/
theorem lineEnd_of_lineAt {line : Int} {cs : List Char} (known : d.lineAt line = .ok cs) :
    ∃ offset, d.lineEnd (min (line + 1) (d.lineCount - 1)) = .ok offset := by
  have bounds := bounds_of_lineAt known
  obtain ⟨n, same⟩ := Int.eq_ofNat_of_zero_le
    (show 0 ≤ min (line + 1) ((d.lineCount : Int) - 1) by omega)
  obtain ⟨cs', found⟩ := lineAt_of_lt (d := d) (n := n) (by omega)
  rw [same, lineEnd, if_neg (by omega), found]
  exact ⟨_, rfl⟩

theorem isCall_eq_error (failed : d.isCall name = .error e) :
    e = .noLine name.stop.line d.lineCount := by
  cases found : d.lineAt name.stop.line with
  | error e' =>
      simp only [isCall, offsetAt, found, Except.map, bind, Except.bind, Except.error.injEq]
        at failed
      rw [← failed]
      exact lineAt_eq_error found
  | ok cs =>
      obtain ⟨offset, ends⟩ := lineEnd_of_lineAt found
      simp [isCall, offsetAt, found, ends, Except.map, bind, Except.bind, pure, Except.pure]
        at failed

theorem qualifier_eq_error {tokens : List String} (failed : d.qualifier tokens name = .error e) :
    e = .noLine name.start.line d.lineCount := by
  unfold qualifier at failed
  cases found : d.offsetAt name.start with
  | error e' =>
      simp only [found, bind, Except.bind, Except.error.injEq] at failed
      rw [← failed]
      exact offsetAt_eq_error found
  | ok start =>
      simp only [found, bind, Except.bind] at failed
      split at failed <;> cases failed

theorem arguments_eq_error (failed : d.arguments name = .error e) :
    e = .noLine name.stop.line d.lineCount := by
  unfold arguments at failed
  cases found : d.offsetAt name.stop with
  | error e' =>
      simp only [found, bind, Except.bind, Except.error.injEq] at failed
      rw [← failed]
      exact offsetAt_eq_error found
  | ok stop =>
      simp only [found, bind, Except.bind] at failed
      split at failed
      · cases failed
      · split at failed <;> cases failed

end Document

/-- A reading was stopped by a line that the text does not have. -/
def ReadingWarning.MissesLine : ReadingWarning → Prop
  | call _ cause => ∃ line count, cause = .noLine line count
  | signature _ cause => ∃ line count, cause = .noLine line count

namespace Document

variable {d : Document} {tokens : List String} {name : Range} {warning : ReadingWarning}

theorem missesLine_readCall (warned : warning ∈ (d.readCall tokens name).2) :
    warning.MissesLine := by
  unfold readCall at warned
  split at warned
  · next e failed =>
    rw [List.mem_singleton.mp warned]
    exact ⟨_, _, isCall_eq_error failed⟩
  · exact absurd warned List.not_mem_nil
  · split at warned
    · next e failed =>
      rw [List.mem_singleton.mp warned]
      exact ⟨_, _, qualifier_eq_error failed⟩
    · split at warned
      · next e failed =>
        rw [List.mem_singleton.mp warned]
        exact ⟨_, _, arguments_eq_error failed⟩
      · exact absurd warned List.not_mem_nil

/-- Nothing but a missing line stops the reading of a call or of a signature. -/
theorem missesLine_readSite {signature : Option (Document × Range)}
    (warned : warning ∈ (d.readSite tokens name signature).2) : warning.MissesLine := by
  unfold readSite at warned
  cases signature with
  | none => exact missesLine_readCall warned
  | some declaration =>
      dsimp only at warned
      split at warned
      · exact missesLine_readCall warned
      · split at warned
        · exact absurd warned List.not_mem_nil
        · next e failed =>
          rw [List.mem_singleton.mp warned]
          exact ⟨_, _, arguments_eq_error failed⟩

end Document

/-- Something could not be read because the text of a file is missing, or a line of it. -/
def SiteWarning.MissesSource : SiteWarning → Prop
  | noSignature _ _ => True
  | reading warning => warning.MissesLine

namespace Provider

variable {p : Provider} {s : Settings} {warning : SiteWarning}

theorem missesSource_signature {target : Item} (warned : warning ∈ (p.signature s target).2) :
    warning.MissesSource := by
  unfold signature at warned
  split at warned
  · split at warned
    · exact absurd warned List.not_mem_nil
    · rw [List.mem_singleton.mp warned]
      trivial
  · exact absurd warned List.not_mem_nil

theorem warnings_callSite (p : Provider) (s : Settings) (caller : Document) (target : Item)
    (range : Range) :
    (p.callSite s caller target range).2 = (p.signature s target).2 ++
      (caller.readSite s.selfTokens range (p.signature s target).1).2.map .reading :=
  rfl

/-- Where call sites are listed, only missing texts and lines are warned of. -/
theorem missesSource_of_callSites {function : Item} {sites : List CallSite}
    {warnings : List SiteWarning} (listed : p.callSites s function = .ok (sites, warnings))
    (warned : warning ∈ warnings) : warning.MissesSource := by
  unfold callSites at listed
  split at listed
  · cases listed
  · cases listed
  · cases listed
    rw [List.flatMap_map] at warned
    obtain ⟨⟨target, range⟩, -, here⟩ := List.mem_flatMap.mp warned
    rw [warnings_callSite] at here
    rcases List.mem_append.mp here with unsigned | unread
    · exact missesSource_signature unsigned
    · obtain ⟨_, inner, rfl⟩ := List.mem_map.mp unread
      exact Document.missesLine_readSite inner

end Provider

end CallDiagram
