import CallDiagram.Hierarchy.Recorded
import CallDiagram.Proofs.CallSite.Execution

/-! # Complete listings

The call sites of a function are listed all or not at all, and only the caller's own data can keep
them from being listed. Whatever ranges a provider names, each of them gives one call site: what
cannot be read of it is left empty, and what stops a reading is a missing text or line.
-/

namespace CallDiagram

namespace Document

variable {d : Document} {name : Range}

/-- Behind the last line of a text, or above its first one, there is no call. -/
theorem readSite_of_missing (missing : ¬ (0 ≤ name.stop.line ∧ name.stop.line < d.lineCount))
    (tokens : List String) (signature : Option (Document × Range)) :
    (d.readSite tokens name signature).1 = {} := by
  have failed := offsetAt_eq_error_iff.mpr missing
  have uncalled : d.isCall name = .error (.noLine name.stop.line d.lineCount) := by
    rw [isCall, failed]
    rfl
  have read : d.readCall tokens name =
      ({}, [.call name (.noLine name.stop.line d.lineCount)]) := by
    rw [readCall, uncalled]
  cases signature with
  | none => rw [readSite, read]
  | some declaration =>
      rw [readSite, read]
      rfl

end Document

namespace Provider

variable {p : Provider} {s : Settings} {function : Item}

/-- A listing fails with the failure of the calls, else with that of the text. -/
theorem callSites_eq_error_iff {e : ListingError} :
    p.callSites s function = .error e ↔ e.function = function.name ∧
      (p.outgoingCalls function = .error e.cause ∨
        (∃ calls, p.outgoingCalls function = .ok calls) ∧
          p.sourceText function.uri = .error e.cause) := by
  obtain ⟨name, cause⟩ := e
  unfold callSites
  cases p.outgoingCalls function with
  | error cause' => simp [eq_comm]
  | ok calls =>
      cases p.sourceText function.uri with
      | error cause' => simp [eq_comm]
      | ok text => simp

theorem reading_of_mem {d : Document} {calls : List OutgoingCall} {site : CallSite}
    (member : site ∈ p.readSites s d calls) :
    site.reading = (d.readSite s.selfTokens site.range (p.signature s site.target).1).1 := by
  obtain ⟨⟨target, range⟩, -, rfl⟩ := List.mem_map.mp member
  rfl

/-- Each range that the calls of a function name gives one call site, wherever it lies. -/
theorem perm_callSites {calls : List OutgoingCall} {text : String}
    (answered : p.outgoingCalls function = .ok calls)
    (source : p.sourceText function.uri = .ok text) :
    ∃ sites warnings, p.callSites s function = .ok (sites, warnings) ∧
      sites.Perm (p.readSites s (.ofString text) calls) ∧
      (sites.map CallSite.place).Perm
        (calls.flatMap fun call => call.ranges.map (call.target, ·)) := by
  obtain ⟨warnings, listed⟩ := callSites_of (s := s) answered source
  have perm : (CallSite.inOrder (p.readSites s (.ofString text) calls)).Perm _ :=
    List.mergeSort_perm _ _
  refine ⟨_, warnings, listed, perm, ?_⟩
  have places := perm.map CallSite.place
  rwa [p.map_readSites] at places

/-- The listing of a function fails exactly if its calls or its text cannot be had. Otherwise every
range that the calls name gives one call site, which is no call if the text has no line for it to end
on, and nothing but missing texts and lines keeps anything from being read. -/
theorem callSites_complete (p : Provider) (s : Settings) (function : Item) :
    (∀ e, p.callSites s function = .error e ↔ e.function = function.name ∧
      (p.outgoingCalls function = .error e.cause ∨
        (∃ calls, p.outgoingCalls function = .ok calls) ∧
          p.sourceText function.uri = .error e.cause)) ∧
    ∀ calls text, p.outgoingCalls function = .ok calls → p.sourceText function.uri = .ok text →
      ∃ sites warnings, p.callSites s function = .ok (sites, warnings) ∧
        (sites.map CallSite.place).Perm
          (calls.flatMap fun call => call.ranges.map (call.target, ·)) ∧
        (∀ site ∈ sites, ¬ (0 ≤ site.range.stop.line ∧
          site.range.stop.line < (Document.ofString text).lineCount) → site.reading = {}) ∧
        ∀ warning ∈ warnings, warning.MissesSource := by
  refine ⟨fun e => callSites_eq_error_iff, fun calls text answered source => ?_⟩
  obtain ⟨sites, warnings, listed, perm, places⟩ := perm_callSites (s := s) answered source
  refine ⟨sites, warnings, listed, places, fun site member missing => ?_,
    fun warning warned => missesSource_of_callSites listed warned⟩
  rw [reading_of_mem (perm.mem_iff.mp member)]
  exact Document.readSite_of_missing missing _ _

end Provider

/-- A function whose file has no text. -/
def Item.textless : Item :=
  ⟨"g", .function, "/w/b.py", ⟨⟨0, 0⟩, ⟨0, 6⟩⟩, ⟨⟨0, 0⟩, ⟨0, 1⟩⟩, ""⟩

/-- Ranges beside the text and one that ends before it starts, with signatures that cannot be had. -/
theorem Provider.nesting_callSites_complete :
    let beside : Range := ⟨⟨-1, 0⟩, ⟨7, 2⟩⟩
    let reversed : Range := ⟨⟨0, 3⟩, ⟨0, 1⟩⟩
    let p := (RecordedHierarchy.nesting [⟨.textless, [beside, reversed, beside]⟩]).provider
    let s : Settings := { showSignatures := true }
    p.callSites s .textless = .error ⟨"g", .noSource "/w/b.py"⟩ ∧
      ∃ sites warnings, p.callSites s .nesting = .ok (sites, warnings) ∧
        (sites.map CallSite.place).Perm
          [(.textless, beside), (.textless, reversed), (.textless, beside)] ∧
        (∃ site ∈ sites, site.range = beside ∧ site.reading = {}) ∧
        ∀ warning ∈ warnings, warning.MissesSource := by
  intro beside reversed p s
  have fails := (callSites_complete p s .textless).1 ⟨"g", .noSource "/w/b.py"⟩
  obtain ⟨sites, warnings, listed, places, missing, foreseen⟩ :=
    (callSites_complete p s .nesting).2 _ "f(f())" rfl rfl
  refine ⟨fails.mpr ⟨rfl, .inr ⟨⟨[], rfl⟩, rfl⟩⟩, sites, warnings, listed, places, ?_, foreseen⟩
  have named : (.textless, beside) ∈ sites.map CallSite.place :=
    places.mem_iff.mpr List.mem_cons_self
  obtain ⟨site, member, place⟩ := List.mem_map.mp named
  have range : site.range = beside := congrArg Prod.snd place
  refine ⟨site, member, range, missing site member ?_⟩
  rw [range]
  decide

end CallDiagram
