import CallDiagram.Hierarchy.Recorded
import CallDiagram.Proofs.CallSite.Nesting
import CallDiagram.Proofs.CallSite.Reading
import CallDiagram.Proofs.Sorting
import Mathlib.Data.List.Pairwise

/-! # The order of execution

Calls are carried out in the order in which they end, and of those that end together the one that
starts last comes first. For names that stand apart this agrees with the comparison of call sites,
so the order does not depend on how calls are grouped.
-/

namespace CallDiagram

open Text

namespace Document

variable {d : Document} {name : Range} {start stop finish start' stop' finish' : Nat}

def finishOf (d : Document) (name : Range) : Nat :=
  let last := ((d.argumentRange? name).getD name).stop
  (d.offsetAt last).toOption.getD 0

/-- Calls with a smaller rank are carried out earlier: those that end earlier, and of those that end
together the one that starts later. -/
def rank (d : Document) (name : Range) : Nat :=
  d.finishOf name * (d.text.length + 1)
    + (d.text.length - (d.offsetAt name.start).toOption.getD 0)

theorem CallAt.rank_eq (call : d.CallAt name start stop finish) :
    d.rank name = finish * (d.text.length + 1) + (d.text.length - start) := by
  have ends : d.finishOf name = finish := by
    unfold finishOf
    rcases call.finishes with ⟨none, rfl⟩ | ⟨opened, openAt, rfl⟩
    · rw [none]
      exact congrArg (fun r => r.toOption.getD 0) (offsetAt_of_at call.stops)
    · rw [openAt.range_eq]
      exact congrArg (fun r => r.toOption.getD 0)
        (offsetAt_of_at (at_positionAt (argumentStop_bounds openAt.opens).2))
  rw [rank, ends, offsetAt_of_at call.starts]
  rfl

theorem rank_lt_rank {first second : Range} (firstCall : d.CallAt first start stop finish)
    (secondCall : d.CallAt second start' stop' finish')
    (before : finish < finish' ∨ finish = finish' ∧ start' < start) :
    d.rank first < d.rank second := by
  rw [firstCall.rank_eq, secondCall.rank_eq]
  have bound := le_length_of_at firstCall.starts
  rcases before with less | ⟨rfl, later⟩
  · have step := Nat.mul_le_mul_right (d.text.length + 1) (Nat.succ_le_of_lt less)
    rw [Nat.succ_mul] at step
    omega
  · omega

def precedes (d : Document) (a b : Range) : Bool :=
  d.nests b a || (!d.nests a b && a.start.lt b.start)

variable {a b : Range}

theorem rank_lt_of_precedes (nameA : d.IsName a) (nameB : d.IsName b) (apart : a.Apart b)
    (before : d.precedes a b = true) : d.rank a < d.rank b := by
  obtain ⟨start, stop, finish, callA⟩ := callAt_of_isName nameA
  obtain ⟨start', stop', finish', callB⟩ := callAt_of_isName nameB
  refine rank_lt_rank callA callB ?_
  rcases Bool.or_eq_true_iff.mp before with nested | outside
  · obtain ⟨inside, later⟩ := finish_le_of_nests callB callA nested
    omega
  · obtain ⟨outside, earlier⟩ := Bool.and_eq_true_iff.mp outside
    have starts := (lt_iff_of_at callA.starts callB.starts).mp earlier
    have nonempty := callB.nonempty
    have clear : stop ≤ start' := by
      cases callA.apart callB apart with
      | inl before => exact before
      | inr behind => omega
    exact .inl (finish_lt_of_not_nests callA callB clear (by simpa using outside))

theorem precedes_or_precedes (nameA : d.IsName a) (nameB : d.IsName b) (apart : a.Apart b) :
    d.precedes a b = true ∨ d.precedes b a = true := by
  obtain ⟨start, stop, finish, callA⟩ := callAt_of_isName nameA
  obtain ⟨start', stop', finish', callB⟩ := callAt_of_isName nameB
  have starts : a.start.lt b.start = true ∨ b.start.lt a.start = true := by
    rw [lt_iff_of_at callA.starts callB.starts, lt_iff_of_at callB.starts callA.starts]
    have nonemptyA := callA.nonempty
    have nonemptyB := callB.nonempty
    have clear := callA.apart callB apart
    omega
  unfold precedes
  cases d.nests a b <;> cases d.nests b a <;> simp [starts]

theorem precedes_irrefl (isName : d.IsName a) : d.precedes a a = false := by
  obtain ⟨start, stop, finish, call⟩ := callAt_of_isName isName
  rw [Bool.eq_false_iff]
  intro before
  rcases Bool.or_eq_true_iff.mp before with nested | outside
  · exact Nat.lt_irrefl _ (finish_le_of_nests call call nested).2
  · have earlier := (Bool.and_eq_true_iff.mp outside).2
    exact Nat.lt_irrefl _ ((lt_iff_of_at call.starts call.starts).mp earlier)

/-- The comparison of call sites is the order of their ranks. -/
theorem not_precedes_eq (nameA : d.IsName a) (nameB : d.IsName b) (apart : a = b ∨ a.Apart b) :
    (!d.precedes b a) = decide (d.rank a ≤ d.rank b) := by
  rcases apart with rfl | apart
  · simp [precedes_irrefl nameA]
  · rcases precedes_or_precedes nameA nameB apart with before | behind
    · have less := rank_lt_of_precedes nameA nameB apart before
      have other : d.precedes b a = false := by
        rw [Bool.eq_false_iff]
        intro behind
        have more := rank_lt_of_precedes nameB nameA apart.symm behind
        omega
      rw [other, decide_eq_true (Nat.le_of_lt less)]
      rfl
    · have less := rank_lt_of_precedes nameB nameA apart.symm behind
      rw [behind, decide_eq_false (Nat.not_le_of_lt less)]
      rfl

theorem rank_ne (nameA : d.IsName a) (nameB : d.IsName b) (apart : a.Apart b) :
    d.rank a ≠ d.rank b := by
  rcases precedes_or_precedes nameA nameB apart with before | behind
  · exact Nat.ne_of_lt (rank_lt_of_precedes nameA nameB apart before)
  · exact Nat.ne_of_gt (rank_lt_of_precedes nameB nameA apart.symm behind)

/-- What a rank says of two calls: an argument comes first, and else the call that starts first. -/
theorem order_of_rank_le (nameA : d.IsName a) (nameB : d.IsName b) (apart : a.Apart b)
    (less : d.rank a ≤ d.rank b) :
    d.nests a b = false ∧ (d.nests b a = false → a.start.lt b.start = true) := by
  have before := not_precedes_eq nameA nameB (.inr apart)
  rw [decide_eq_true less, Bool.not_eq_true'] at before
  have forward := (precedes_or_precedes nameA nameB apart).resolve_right (by simp [before])
  have outside : d.nests a b = false := (Bool.or_eq_false_iff.mp before).1
  refine ⟨outside, fun apart => ?_⟩
  rw [precedes, apart, outside] at forward
  exact forward

end Document

namespace CallSite

variable {d : Document}

/-- A call site that was read in a document, whatever the settings were. -/
def ReadIn (site : CallSite) (d : Document) : Prop :=
  site.reading.argumentRange = d.argumentRange? site.range

theorem isNestedIn_eq {inner outer : CallSite} (read : outer.ReadIn d) :
    inner.isNestedIn outer = d.nests outer.range inner.range := by
  unfold isNestedIn Document.nests
  rw [read]
  cases d.argumentRange? outer.range <;> rfl

theorem precedes_eq {a b : CallSite} (readA : a.ReadIn d) (readB : b.ReadIn d) :
    a.precedes b = d.precedes a.range b.range := by
  rw [precedes, isNestedIn_eq readA, isNestedIn_eq readB]
  rfl

end CallSite

/-- The tokens for an instance are looked for in the qualifier only. -/
theorem Document.argumentRange_readCall (d : Document) (tokens : List String) (name : Range) :
    (d.readCall tokens name).1.argumentRange = d.argumentRange? name := by
  unfold argumentRange? readCall
  cases d.isCall name with
  | error e => rfl
  | ok called =>
      cases called with
      | false => rfl
      | true =>
          cases known : d.offsetAt name.start with
          | error e => simp [qualifier, known, bind, Except.bind]
          | ok start =>
              have read (tokens : List String) : ∃ q, d.qualifier tokens name = .ok q := by
                simp only [qualifier, known, bind, Except.bind]
                split <;> exact ⟨_, rfl⟩
              obtain ⟨q, read_tokens⟩ := read tokens
              obtain ⟨q', read_none⟩ := read []
              simp only [read_tokens, read_none]
              cases d.arguments name <;> rfl

theorem Document.argumentRange_readSite (d : Document) (tokens : List String) (name : Range)
    (signature : Option (Document × Range)) :
    (d.readSite tokens name signature).1.argumentRange = d.argumentRange? name := by
  rw [← d.argumentRange_readCall tokens name]
  exact (congrArg SiteReading.argumentRange
    (d.readSite_withoutArguments tokens name signature) :)

theorem Provider.readIn_callSite (p : Provider) (s : Settings) (caller : Document) (target : Item)
    (range : Range) : (p.callSite s caller target range).1.ReadIn caller :=
  caller.argumentRange_readSite s.selfTokens range (p.signature s target).1

/-! ## Sorting by rank -/

namespace Document

variable (d : Document) {sites : List (Item × Range)}

def byRank (sites : List (Item × Range)) : List (Item × Range) :=
  sites.mergeSort fun a b => decide (d.rank a.2 ≤ d.rank b.2)

theorem byRank_eq_sortedBy (sites : List (Item × Range)) :
    d.byRank sites = sortedBy (fun site => d.rank site.2) sites := by
  unfold byRank sortedBy
  rfl

theorem pairwise_byRank (sites : List (Item × Range)) :
    (d.byRank sites).Pairwise fun a b => d.rank a.2 ≤ d.rank b.2 := by
  rw [byRank_eq_sortedBy]
  exact pairwise_sortedBy _ sites

theorem byRank_eq_of_perm {others : List (Item × Range)} (perm : others.Perm sites)
    (distinct : ∀ a ∈ sites, ∀ b ∈ sites, d.rank a.2 = d.rank b.2 → a = b) :
    d.byRank others = d.byRank sites := by
  rw [byRank_eq_sortedBy, byRank_eq_sortedBy]
  exact sortedBy_eq_of_perm _ perm distinct

end Document

/-! ## Listed call sites -/

def CallSite.place (site : CallSite) : Item × Range :=
  (site.target, site.range)

theorem Provider.map_readSites (p : Provider) (s : Settings) (d : Document)
    (calls : List OutgoingCall) :
    (p.readSites s d calls).map CallSite.place = flattenCalls calls := by
  rw [readSites, List.map_map]
  exact List.map_id _

theorem Provider.readIn_of_mem {p : Provider} {s : Settings} {d : Document}
    {calls : List OutgoingCall} {site : CallSite} (member : site ∈ p.readSites s d calls) :
    site.ReadIn d := by
  obtain ⟨⟨target, range⟩, -, rfl⟩ := List.mem_map.mp member
  exact p.readIn_callSite s d target range

namespace Document.Separate

variable {d : Document} {sites : List (Item × Range)} {read : List CallSite}

theorem apart_of_mem (separate : d.Separate sites) {a b : Item × Range} (memberA : a ∈ sites)
    (memberB : b ∈ sites) (different : a ≠ b) : a.2.Apart b.2 := by
  have : Std.Symm fun a b : Item × Range => a.2.Apart b.2 := ⟨fun _ _ => Range.Apart.symm⟩
  exact separate.apart.forall memberA memberB different

theorem eq_of_rank_eq (separate : d.Separate sites) :
    ∀ a ∈ sites, ∀ b ∈ sites, d.rank a.2 = d.rank b.2 → a = b := by
  intro a memberA b memberB same
  by_contra different
  exact rank_ne (separate.names a memberA) (separate.names b memberB)
    (separate.apart_of_mem memberA memberB different) same

/-- Sites that were read at separate places are sorted as the ranks of these places are. -/
theorem map_inOrder (separate : d.Separate sites) (readIn : ∀ site ∈ read, site.ReadIn d)
    (perm : (read.map CallSite.place).Perm sites) :
    (CallSite.inOrder read).map CallSite.place = d.byRank sites := by
  rw [← d.byRank_eq_of_perm perm separate.eq_of_rank_eq]
  refine List.map_mergeSort fun a memberA b memberB => ?_
  have siteA : a.place ∈ sites := perm.mem_iff.mp (List.mem_map_of_mem memberA)
  have siteB : b.place ∈ sites := perm.mem_iff.mp (List.mem_map_of_mem memberB)
  rw [CallSite.precedes_eq (readIn b memberB) (readIn a memberA)]
  refine not_precedes_eq (separate.names _ siteA) (separate.names _ siteB) ?_
  by_cases same : a.place = b.place
  · exact .inl (congrArg Prod.snd same)
  · exact .inr (separate.apart_of_mem siteA siteB same)

/-- In the sorted list an argument comes first, and else the call that starts first. -/
theorem pairwise_inOrder (separate : d.Separate sites) (readIn : ∀ site ∈ read, site.ReadIn d)
    (perm : (read.map CallSite.place).Perm sites) :
    (CallSite.inOrder read).Pairwise fun a b => b.isNestedIn a = false ∧
      (a.isNestedIn b = false → a.range.start.lt b.range.start = true) := by
  have ranks : (CallSite.inOrder read).Pairwise fun a b => d.rank a.range ≤ d.rank b.range := by
    have ordered := d.pairwise_byRank sites
    rw [← separate.map_inOrder readIn perm] at ordered
    exact (List.pairwise_map.mp ordered :)
  have apart : (CallSite.inOrder read).Pairwise fun a b => a.range.Apart b.range := by
    have ordered : (d.byRank sites).Pairwise fun a b => a.2.Apart b.2 :=
      (List.mergeSort_perm sites _).symm.pairwise separate.apart Range.Apart.symm
    rw [← separate.map_inOrder readIn perm] at ordered
    exact (List.pairwise_map.mp ordered :)
  refine (ranks.and apart).imp_of_mem fun {a b} memberA memberB both => ?_
  have unsortedA : a ∈ read := (List.mergeSort_perm _ _).mem_iff.mp memberA
  have unsortedB : b ∈ read := (List.mergeSort_perm _ _).mem_iff.mp memberB
  have siteA : a.place ∈ sites := perm.mem_iff.mp (List.mem_map_of_mem unsortedA)
  have siteB : b.place ∈ sites := perm.mem_iff.mp (List.mem_map_of_mem unsortedB)
  rw [CallSite.isNestedIn_eq (readIn a unsortedA), CallSite.isNestedIn_eq (readIn b unsortedB)]
  exact order_of_rank_le (separate.names _ siteA) (separate.names _ siteB) both.2 both.1

end Document.Separate

/-- However the calls of a function are grouped, they are listed in one order: what lies in the
arguments of a call precedes it, and else the call that starts first. -/
theorem Provider.callSites_order (text : String) (sites : List (Item × Range))
    (separate : (Document.ofString text).Separate sites) :
    ∃ order : List (Item × Range), order.Perm sites ∧
      ∀ (p : Provider) (s : Settings) (function : Item) (calls : List OutgoingCall),
        p.outgoingCalls function = .ok calls → p.sourceText function.uri = .ok text →
        (flattenCalls calls).Perm sites →
        ∃ listed warnings, p.callSites s function = .ok (listed, warnings) ∧
          listed.map CallSite.place = order ∧
          listed.Pairwise fun a b => b.isNestedIn a = false ∧
            (a.isNestedIn b = false → a.range.start.lt b.range.start = true) := by
  let d := Document.ofString text
  refine ⟨d.byRank sites, List.mergeSort_perm _ _, ?_⟩
  intro p s function calls answered source perm
  obtain ⟨warnings, listed⟩ := Provider.callSites_of (s := s) answered source
  have readIn : ∀ site ∈ p.readSites s d calls, site.ReadIn d := fun _ member =>
    readIn_of_mem member
  rw [← p.map_readSites s d calls] at perm
  exact ⟨_, warnings, listed, separate.map_inOrder readIn perm,
    separate.pairwise_inOrder readIn perm⟩

def Item.nesting : Item :=
  ⟨"f", .function, "/w/a.py", ⟨⟨0, 0⟩, ⟨0, 6⟩⟩, ⟨⟨0, 0⟩, ⟨0, 1⟩⟩, ""⟩

/-- A function that calls itself in the arguments of a call of itself. -/
def RecordedHierarchy.nesting (calls : List OutgoingCall) : RecordedHierarchy where
  sources := [("/w/a.py", "f(f())")]
  calls := [(.nesting, calls)]

theorem Provider.nesting_callSites_order :
    let outer : Range := ⟨⟨0, 0⟩, ⟨0, 1⟩⟩
    let inner : Range := ⟨⟨0, 2⟩, ⟨0, 3⟩⟩
    let together := RecordedHierarchy.nesting [⟨.nesting, [outer, inner]⟩]
    let grouped := RecordedHierarchy.nesting [⟨.nesting, [inner]⟩, ⟨.nesting, [outer]⟩]
    (Document.ofString "f(f())").Separate [(.nesting, outer), (.nesting, inner)] ∧
      ∃ listed warnings listed' warnings',
        together.provider.callSites {} .nesting = .ok (listed, warnings) ∧
        grouped.provider.callSites {} .nesting = .ok (listed', warnings') ∧
        listed.map CallSite.place = listed'.map CallSite.place ∧
        listed.Pairwise fun a b => b.isNestedIn a = false ∧
          (a.isNestedIn b = false → a.range.start.lt b.range.start = true) := by
  intro outer inner together grouped
  have letter : ∀ c ∈ ['f'], isBlank c = false ∧ c ≠ '(' ∧ c ≠ ')' :=
    List.forall_mem_singleton.mpr ⟨by decide, by decide, by decide⟩
  have first : (Document.ofString "f(f())").IsName outer := by
    refine ⟨⟨_, rfl, by decide, by decide⟩, ⟨_, rfl, by decide, by decide⟩, by decide, ?_⟩
    intro cs covered
    cases covered
    exact letter
  have second : (Document.ofString "f(f())").IsName inner := by
    refine ⟨⟨_, rfl, by decide, by decide⟩, ⟨_, rfl, by decide, by decide⟩, by decide, ?_⟩
    intro cs covered
    cases covered
    exact letter
  have separate :
      (Document.ofString "f(f())").Separate [(.nesting, outer), (.nesting, inner)] := by
    refine ⟨?_, ?_⟩
    · intro site member
      rcases List.mem_cons.mp member with rfl | member
      · exact first
      · rw [List.mem_singleton.mp member]
        exact second
    · exact .cons (by simp [Range.Apart]; decide) (.cons (by simp) .nil)
  obtain ⟨order, -, sorted⟩ := callSites_order "f(f())" _ separate
  obtain ⟨listed, warnings, known, places, pairs⟩ :=
    sorted together.provider {} .nesting _ rfl rfl (.refl _)
  obtain ⟨listed', warnings', known', places', -⟩ :=
    sorted grouped.provider {} .nesting _ rfl rfl (.swap _ _ _)
  exact ⟨separate, listed, warnings, listed', warnings', known, known', places.trans places'.symm,
    pairs⟩

end CallDiagram
