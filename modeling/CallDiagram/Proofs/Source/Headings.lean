import CallDiagram.Proofs.Source.Lines
import CallDiagram.Source.Grammar.Statement

/-! # Lines of headings

Behind the heading of a function or class a line ends before the next heading starts, so no two
definitions of a text start on one line. Main statement: `pairwise_declarations`.
-/

namespace CallDiagram.Source

/-- A function or class statement, known by its heading. -/
inductive Declaration where
  | function (heading : Heading)
  | classDef (heading : Heading)

namespace Declaration

def heading : Declaration → Heading
  | .function heading | .classDef heading => heading

def start (d : Declaration) : Mark := d.heading.span.start

end Declaration

mutual

/-- The function and class statements in a statement, in the order in which they start. -/
@[simp] def Stmt.declarations : Stmt → List Declaration
  | .function heading _ _ _ body => .function heading :: declarationsOf body
  | .classDef heading _ _ body _ => .classDef heading :: declarationsOf body
  | .compound clauses => declarationsIn clauses
  | .simple _ | .assign .. | .annotate .. | .importModules _ | .importNames .. => []

@[simp] def declarationsOf : List Stmt → List Declaration
  | [] => []
  | st :: rest => st.declarations ++ declarationsOf rest

@[simp] def Clause.declarations : Clause → List Declaration
  | .mk _ body => declarationsOf body

@[simp] def declarationsIn : List Clause → List Declaration
  | [] => []
  | c :: rest => c.declarations ++ declarationsIn rest

end

@[simp] theorem declarationsOf_append (xs ys : List Stmt) :
    declarationsOf (xs ++ ys) = declarationsOf xs ++ declarationsOf ys := by
  induction xs with
  | nil => rfl
  | cons st xs ih => simp [ih]

@[simp] theorem declarationsIn_append (xs ys : List Clause) :
    declarationsIn (xs ++ ys) = declarationsIn xs ++ declarationsIn ys := by
  induction xs with
  | nil => rfl
  | cons c xs ih => simp [ih]

@[simp] theorem flatMap_declarationsIn (cs : List Clause) :
    cs.flatMap Clause.declarations = declarationsIn cs := by
  induction cs with
  | nil => rfl
  | cons c cs ih => rw [List.flatMap_cons, ih, declarationsIn]

theorem flatMap_declarationsOf (bodies : List (List Stmt)) :
    bodies.flatMap declarationsOf = declarationsOf bodies.flatten := by
  induction bodies with
  | nil => rfl
  | cons body bodies ih => simp [ih]

/-- The declarations start at some of the tokens, and a line ends behind each of them before the
next one starts. -/
inductive Spaced : List Token → List Declaration → Prop where
  | none (ts : List Token) : Spaced ts []
  | skip {ts : List Token} {ds : List Declaration} (t : Token) : Spaced ts ds → Spaced (t :: ts) ds
  | start {before behind : List Token} {ending : Token} {d : Declaration} {ds : List Declaration} :
      ending.lexeme = .newline → (before.headD ending).span.start = d.start → Spaced behind ds →
      Spaced (before ++ ending :: behind) (d :: ds)

namespace Spaced

variable {ts us : List Token} {ds es : List Declaration}

theorem after (us : List Token) (spaced : Spaced ts ds) : Spaced (us ++ ts) ds := by
  induction us with
  | nil => exact spaced
  | cons u us ih => exact .skip u ih

theorem append (first : Spaced ts ds) (second : Spaced us es) : Spaced (ts ++ us) (ds ++ es) := by
  induction first with
  | none ts => exact second.after ts
  | skip t _ ih => exact .skip t ih
  | start ending first _ ih =>
      rw [List.append_assoc, List.cons_append]
      exact .start ending first ih

theorem exists_token (spaced : Spaced ts ds) {d : Declaration} (h : d ∈ ds) :
    ∃ t ∈ ts, t.span.start = d.start := by
  induction spaced with
  | none => cases h
  | skip t _ ih =>
      obtain ⟨u, member, same⟩ := ih h
      exact ⟨u, List.mem_cons_of_mem t member, same⟩
  | @start before behind ending _ _ _ first _ ih =>
      rcases List.mem_cons.mp h with rfl | later
      · cases before with
        | nil => exact ⟨ending, List.mem_cons_self, first⟩
        | cons t before => exact ⟨t, List.mem_cons_self, first⟩
      · obtain ⟨u, member, same⟩ := ih later
        exact ⟨u, List.mem_append_right _ (List.mem_cons_of_mem _ member), same⟩

/-- Where tokens stand in lines, spaced declarations start on lines of their own. -/
theorem pairwise_line (spaced : Spaced ts ds)
    (lines : ts.Pairwise fun a b => a.Above b.span.start) :
    ds.Pairwise fun d e => d.start.line < e.start.line := by
  induction spaced with
  | none => exact .nil
  | skip t _ ih => exact ih (List.pairwise_cons.mp lines).2
  | @start before behind ending d ds newline first spaced ih =>
      obtain ⟨-, behindLines, across⟩ := List.pairwise_append.mp lines
      obtain ⟨below, inner⟩ := List.pairwise_cons.mp behindLines
      refine List.pairwise_cons.mpr ⟨fun e member => ?_, ih inner⟩
      obtain ⟨u, among, start⟩ := spaced.exists_token member
      have line : ending.span.start.line < e.start.line := start ▸ (below u among).ending newline
      cases before with
      | nil => exact first ▸ line
      | cons t before =>
          have earlier := (across t List.mem_cons_self ending List.mem_cons_self).start
          exact first ▸ Nat.lt_of_le_of_lt earlier line

end Spaced

/-- On the way from the tokens `ts` to their end `us` there are the declarations that `es` has
behind `ds`. -/
def Adds (ts us : List Token) (ds es : List Declaration) : Prop :=
  ∃ taken found, ts = taken ++ us ∧ es = ds ++ found ∧ Spaced taken found

/-- So it is, and a line ends before the first of them. -/
def AddsBelow (ts us : List Token) (ds es : List Declaration) : Prop :=
  ∃ line ending behind, ts = line ++ ending :: behind ∧ ending.lexeme = .newline ∧
    Adds behind us ds es

section Adding

variable {ts us vs : List Token} {ds es fs : List Declaration}

theorem Adds.of_suffix (h : us <:+ ts) : Adds ts us ds ds := by
  obtain ⟨taken, rfl⟩ := h
  exact ⟨taken, [], rfl, (List.append_nil ds).symm, .none taken⟩

theorem Adds.trans (first : Adds ts us ds es) (second : Adds us vs es fs) : Adds ts vs ds fs := by
  obtain ⟨taken, found, rfl, rfl, spaced⟩ := first
  obtain ⟨taken', found', rfl, rfl, spaced'⟩ := second
  exact ⟨taken ++ taken', found ++ found', by simp, by simp, spaced.append spaced'⟩

/-- More declarations in front. -/
theorem Adds.shift (h : Adds ts us [] es) (ds : List Declaration) : Adds ts us ds (ds ++ es) := by
  obtain ⟨taken, found, split, same, spaced⟩ := h
  exact ⟨taken, found, split, by rw [same, List.nil_append], spaced⟩

theorem AddsBelow.adds (h : AddsBelow ts us ds es) : Adds ts us ds es := by
  obtain ⟨line, ending, _, rfl, -, added⟩ := h
  exact (Adds.of_suffix ⟨line ++ [ending], by simp⟩).trans added

theorem AddsBelow.trans (first : AddsBelow ts us ds es) (second : Adds us vs es fs) :
    AddsBelow ts vs ds fs := by
  obtain ⟨line, ending, behind, split, newline, added⟩ := first
  exact ⟨line, ending, behind, split, newline, added.trans second⟩

theorem AddsBelow.behind (skipped : us <:+ ts) (h : AddsBelow us vs ds es) :
    AddsBelow ts vs ds es := by
  obtain ⟨taken, rfl⟩ := skipped
  obtain ⟨line, ending, behind, rfl, below⟩ := h
  exact ⟨taken ++ line, ending, behind, by simp, below⟩

/-- A declaration starts at the first token. -/
theorem AddsBelow.start {d : Declaration} (h : AddsBelow ts us [] es)
    (first : ∀ t rest, ts = t :: rest → t.span.start = d.start) : Adds ts us ds (ds ++ d :: es) := by
  obtain ⟨line, ending, _, rfl, newline, taken, found, rfl, same, spaced⟩ := h
  refine ⟨line ++ ending :: taken, d :: found, by simp, by rw [same, List.nil_append],
    .start newline ?_ spaced⟩
  cases line with
  | nil => exact first ending _ rfl
  | cons t line => exact first t _ rfl

end Adding

/-! ## What parsers read -/

namespace Parser

/-- What tokens that end where a reading starts, its result and the tokens behind it have to do
with one another. -/
def Reads {α : Type} (p : Parser α) (R : List Token → α → List Token → Prop) : Prop :=
  ∀ c r, p c = .ok r → ∀ ts, c.rest <:+ ts → R ts r.1.1 r.1.2.rest

abbrev Yields {α : Type} (p : Parser α) (P : α → Prop) : Prop :=
  p.Reads fun _ a _ => P a

/-- What is read holds, behind `before`, the declarations on the way. -/
abbrev Finds {α : Type} (p : Parser α) (before : List Declaration) (g : α → List Declaration) :
    Prop :=
  p.Reads fun ts a us => Adds ts us before (g a)

abbrev FindsBelow {α : Type} (p : Parser α) (before : List Declaration)
    (g : α → List Declaration) : Prop :=
  p.Reads fun ts a us => AddsBelow ts us before (g a)

variable {α β : Type} {p p' : Parser α} {q : α → Parser β} {P : α → Prop}
  {R : List Token → α → List Token → Prop} {S : List Token → β → List Token → Prop}
  {before : List Declaration} {f : β → List Declaration} {g : α → List Declaration}

theorem exists_of_bind {c : Cursor} {r : Reading β c} (h : (p >>= q) c = .ok r) :
    ∃ first second, p c = .ok first ∧ q first.1.1 first.1.2 = .ok second ∧ second.1 = r.1 := by
  simp only [bind] at h
  split at h
  · cases h
  · next a behind taken read =>
    split at h
    · cases h
    · next r' further read' =>
      cases h
      exact ⟨⟨(a, behind), taken⟩, ⟨r', further⟩, read, read', rfl⟩

namespace Reads

theorem fail : (fail : Parser α).Reads R :=
  fun _ _ h => nomatch h

theorem ite {b : Prop} [Decidable b] (first : p.Reads R) (second : p'.Reads R) :
    (if b then p else p').Reads R := by
  split
  · exact first
  · exact second

theorem orElse (first : p.Reads R) (second : p'.Reads R) : (orElse p p').Reads R := by
  intro c r h
  unfold Parser.orElse at h
  split at h
  · next read =>
    cases h
    exact first c _ read
  · exact second c r h

theorem bindOf (first : p.Yields P) (second : ∀ a, P a → (q a).Reads S) : (p >>= q).Reads S := by
  intro c r h ts within
  obtain ⟨r₁, r₂, read, read', last⟩ := exists_of_bind h
  rw [← last]
  exact second _ (first c r₁ read ts within) _ r₂ read' ts (r₁.2.trans within)

theorem behind (second : ∀ a, (q a).Reads S) : (p >>= q).Reads S :=
  bindOf (P := fun _ => True) (fun _ _ _ _ _ => trivial) fun a _ => second a

/-- Goes on unless the reading fails. -/
theorem guard {b : Prop} [Decidable b] {next : PUnit → Parser α} (h : (next ⟨⟩).Reads R) :
    (if b then Parser.fail >>= next else next ⟨⟩).Reads R :=
  ite (behind fun _ => h) h

/-- Something in front may be there or not. -/
theorem optional {b : Prop} [Decidable b] {front : Parser β} (h : p.Reads R) :
    (if b then front >>= fun _ => p else p).Reads R :=
  ite (behind fun _ => h) h

end Reads

theorem yields_pure {a : α} (h : P a) : (pure a : Parser α).Yields P := by
  intro c r read _ _
  cases read
  exact h

theorem Yields.many (each : p.Yields P) : (many p).Yields fun as => ∀ a ∈ as, P a := by
  intro c r h ts within
  cases h
  fun_induction manyFrom p c with
  | case1 => exact List.forall_mem_nil _
  | case2 c a _ taken read _ as _ _ repeated ih =>
      rw [repeated] at ih
      exact List.forall_mem_cons.mpr ⟨each c _ read ts within, ih (taken.trans within)⟩
  | case3 c a _ _ read => exact List.forall_mem_singleton.mpr (each c _ read ts within)

theorem finds_pure {a : α} (h : g a = before) : (pure a : Parser α).Finds before g := by
  intro c r read ts within
  cases read
  exact h ▸ .of_suffix within

theorem Finds.bind (first : p.Finds before g) (second : ∀ a, (q a).Finds (g a) f) :
    (p >>= q).Finds before f := by
  intro c r h ts within
  obtain ⟨r₁, r₂, read, read', last⟩ := exists_of_bind h
  rw [← last]
  exact (first c r₁ read ts within).trans (second _ _ r₂ read' _ List.suffix_rfl)

theorem Finds.shift (found : p.Finds [] g) : p.Finds before fun a => before ++ g a :=
  fun c r h ts within => (found c r h ts within).shift before

theorem Finds.bindPure {γ : Type} {h : α → β} {q : β → Parser γ} {e : γ → List Declaration}
    (first : p.Finds [] fun a => f (h a)) (second : ∀ b, (q b).Finds (before ++ f b) e) :
    (p >>= fun a => pure (h a) >>= q).Finds before e :=
  first.shift.bind fun _ => Finds.bind (g := fun b => before ++ f b) (finds_pure rfl) second

theorem Finds.manyFrom (found : p.Finds [] g) (c : Cursor) :
    Adds c.rest (manyFrom p c).1.2.rest [] ((manyFrom p c).1.1.flatMap g) := by
  fun_induction Parser.manyFrom p c with
  | case1 c => exact .of_suffix List.suffix_rfl
  | case2 c a _ _ read _ as _ _ repeated ih =>
      rw [repeated] at ih
      exact (found c _ read _ List.suffix_rfl).trans (ih.shift (g a))
  | case3 c a _ _ read => simpa using found c _ read _ List.suffix_rfl

theorem Finds.many (found : p.Finds [] g) :
    (many p).Finds before fun as => before ++ as.flatMap g := by
  refine Finds.shift fun c r h ts within => ?_
  cases h
  exact (Adds.of_suffix within).trans (found.manyFrom c)

theorem Finds.follow {p : Parser Bool} {q : Parser α} (found : q.Finds [] g) (n : Nat) :
    (whileAccepted.follow p q n).Finds before fun as => before ++ as.flatMap g := by
  induction n generalizing before with
  | zero => exact finds_pure (by simp)
  | succ n ih =>
      refine .behind fun accepted => .ite ?_ (finds_pure (by simp))
      exact found.shift.bind fun a => ih.bind fun as => finds_pure (by simp)

theorem Finds.whileAccepted {p : Parser Bool} {q : Parser α} (found : q.Finds [] g) :
    (whileAccepted p q).Finds before fun as => before ++ as.flatMap g :=
  fun c r h => Finds.follow found c.rest.length c r h

theorem FindsBelow.finds (below : p.FindsBelow before g) : p.Finds before g :=
  fun c r h ts within => (below c r h ts within).adds

theorem FindsBelow.bind (first : p.FindsBelow before g) (second : ∀ a, (q a).Finds (g a) f) :
    (p >>= q).FindsBelow before f := by
  intro c r h ts within
  obtain ⟨r₁, r₂, read, read', last⟩ := exists_of_bind h
  rw [← last]
  exact (first c r₁ read ts within).trans (second _ _ r₂ read' _ List.suffix_rfl)

theorem exists_of_accept {l : Lexeme} {c : Cursor} {r : Reading Bool c} (h : accept l c = .ok r)
    (accepted : r.1.1 = true) : ∃ t, c.rest = t :: r.1.2.rest ∧ t.lexeme = l := by
  obtain ⟨first, second, read, h, last⟩ := exists_of_bind h
  cases read
  rw [← last] at accepted ⊢
  split at h
  · next seen =>
    obtain ⟨token, third, taken, h, same⟩ := exists_of_bind h
    cases h
    rw [← same]
    obtain ⟨_ | ⟨t, rest⟩, mark⟩ := c
    · cases taken
    · cases taken
      exact ⟨t, rfl, seen⟩
  · cases h
    cases accepted

theorem exists_of_expect {l : Lexeme} {c : Cursor} {r : Reading Unit c} (h : expect l c = .ok r) :
    ∃ t, c.rest = t :: r.1.2.rest ∧ t.lexeme = l := by
  obtain ⟨first, second, read, h, last⟩ := exists_of_bind h
  split at h
  · cases h
  · next accepted =>
    cases h
    rw [← last]
    exact exists_of_accept read (by simpa using accepted)

theorem findsBelow_newline : (expect .newline).FindsBelow before fun _ => before := by
  intro c r h ts within
  obtain ⟨t, split, newline⟩ := exists_of_expect h
  obtain ⟨line, same⟩ := within
  exact ⟨line, t, r.1.2.rest, same.symm.trans (congrArg (line ++ ·) split), newline,
    .of_suffix List.suffix_rfl⟩

end Parser

/-! ## Simple statements -/

def Stmt.IsPlain (st : Stmt) : Prop := st.declarations = []

open CallDiagram.Source.Parser

theorem plain_importModules : importModules.Yields Stmt.IsPlain :=
  .behind fun _ => .behind fun (_, _) => .guard <| yields_pure rfl

theorem plain_importNames : importNames.Yields Stmt.IsPlain := by
  refine .behind fun _ => .behind fun _ => .behind fun _ => ?_
  refine .ite (.behind fun _ => ?_) (.behind fun _ => ?_)
  all_goals
    refine .behind fun _ => .behind fun _ => .ite (yields_pure rfl) ?_
    refine .behind fun _ => .ite ?_ ?_
    · exact .behind fun (_, _) => .behind fun _ => yields_pure rfl
    · exact .behind fun (_, _) => .guard <| yields_pure rfl

theorem plain_assignment (r : Rules) : (assignment r).Yields Stmt.IsPlain := by
  refine .behind fun first => .behind fun l => ?_
  split
  · refine .guard <| .behind fun _ => .behind fun _ => .behind fun _ => ?_
    exact .ite (.behind fun _ => yields_pure rfl) (.behind fun _ => yields_pure rfl)
  · exact .behind fun _ => .guard <| yields_pure rfl
  · exact .ite (.guard <| .behind fun _ => .behind fun _ => yields_pure rfl)
      (yields_pure rfl)
  · exact yields_pure rfl

theorem plain_deletion (r : Rules) : (deletion r).Yields Stmt.IsPlain :=
  .behind fun _ => .behind fun (_, _) => .guard <| yields_pure rfl

theorem plain_raising (r : Rules) : (raising r).Yields Stmt.IsPlain := by
  refine .behind fun _ => .behind fun raised => ?_
  cases raised with
  | none => exact yields_pure rfl
  | some e => exact .behind fun _ => .ite (.behind fun _ => yields_pure rfl) (yields_pure rfl)

theorem plain_assertion (r : Rules) : (assertion r).Yields Stmt.IsPlain :=
  .behind fun _ => .behind fun _ => .behind fun _ =>
    .ite (.behind fun _ => yields_pure rfl) (yields_pure rfl)

theorem plain_sharedNames : sharedNames.Yields Stmt.IsPlain :=
  .behind fun _ => .behind fun (_, _) => .guard <| yields_pure rfl

theorem plain_simpleStatement (r : Rules) : (simpleStatement r).Yields Stmt.IsPlain := by
  refine .behind fun first => ?_
  split
  · exact .behind fun _ => yields_pure rfl
  · exact .behind fun _ => yields_pure rfl
  · exact .behind fun _ => yields_pure rfl
  · exact .behind fun _ => .behind fun _ => yields_pure rfl
  · exact plain_raising r
  · exact plain_sharedNames
  · exact plain_sharedNames
  · exact plain_deletion r
  · exact plain_assertion r
  · exact plain_importModules
  · exact plain_importNames
  · exact plain_assignment r

theorem declarationsOf_plain {sts : List Stmt} (plain : ∀ st ∈ sts, st.IsPlain) :
    declarationsOf sts = [] := by
  induction sts with
  | nil => rfl
  | cons st sts ih =>
      obtain ⟨first, others⟩ := List.forall_mem_cons.mp plain
      rw [declarationsOf, first, ih others, List.append_nil]

theorem below_simpleStatements (r : Rules) :
    (simpleStatements r).FindsBelow [] declarationsOf := by
  refine .bindOf (plain_simpleStatement r) fun first plain => ?_
  refine .bindOf (Yields.many (.behind fun _ => plain_simpleStatement r)) fun others plains => ?_
  refine .behind fun _ => findsBelow_newline.bind fun _ => finds_pure ?_
  exact declarationsOf_plain (List.forall_mem_cons.mpr ⟨plain, plains⟩)

/-! ## Statements with bodies -/

/-- A declaration that starts at the mark and what is declared in its body, which starts on a line
below. -/
def Declares (start : Mark) (ts : List Token) (st : Stmt) (us : List Token) : Prop :=
  ∃ d es, st.declarations = d :: es ∧ d.start = start ∧ AddsBelow ts us [] es

/-- The declaration starts where the parser is. -/
theorem finds_here {k : Mark → Parser Stmt} (declares : ∀ start, (k start).Reads (Declares start)) :
    (here >>= k).Finds [] Stmt.declarations := by
  intro c r h ts within
  obtain ⟨r₁, r₂, read, read', last⟩ := exists_of_bind h
  cases read
  obtain ⟨d, es, same, start, added⟩ := declares _ c r₂ read' c.rest List.suffix_rfl
  rw [← last, same]
  refine (Adds.of_suffix within).trans (added.start fun t rest split => ?_)
  rw [start]
  simp [split]

section Bodies

variable {b : BlockRules} (block : b.block.FindsBelow [] declarationsOf)

include block

theorem below_body : (body b).FindsBelow [] declarationsOf :=
  .behind fun _ => block

theorem finds_lastBody : (body b).Finds [] fun statements => declarationsIn [.mk [] statements] := by
  simpa using (below_body block).finds

theorem finds_guarded : (guarded b).Finds [] Clause.declarations :=
  .behind fun _ => (below_body block).finds.bind fun _ => finds_pure rfl

theorem finds_elseClause : (elseClause b).Finds [] declarationsIn := by
  refine .behind fun _ => .ite ?_ (finds_pure rfl)
  exact (finds_lastBody block).bind fun _ => finds_pure rfl

theorem finds_conditional : (conditional b).Finds [] Stmt.declarations := by
  refine .behind fun _ => (finds_guarded block).bind fun first => ?_
  refine (finds_guarded block).whileAccepted.bind fun others => ?_
  refine (finds_elseClause block).shift.bind fun last => finds_pure ?_
  simp

theorem finds_whileLoop : (whileLoop b).Finds [] Stmt.declarations := by
  refine .behind fun _ => (finds_guarded block).bind fun first => ?_
  refine (finds_elseClause block).shift.bind fun last => finds_pure ?_
  simp

theorem finds_forLoop : (forLoop b).Finds [] Stmt.declarations := by
  refine .behind fun _ => .behind fun _ => .behind fun _ => .behind fun _ => ?_
  refine (below_body block).finds.bind fun first => ?_
  refine (finds_elseClause block).shift.bind fun last => finds_pure ?_
  simp

theorem finds_withBlock : (withBlock b).Finds [] Stmt.declarations := by
  refine .behind fun _ => .behind fun _ => block.finds.bind fun _ => finds_pure ?_
  simp

theorem finds_handler (group : Bool) : (handler b group).Finds [] Clause.declarations := by
  refine .optional <| .ite (.behind fun _ => .ite ?_ ?typed) ?typed
  · exact block.finds.bind fun _ => finds_pure rfl
  · refine .behind fun _ => .behind fun _ => .optional ?_
    exact (below_body block).finds.bind fun _ => finds_pure rfl

theorem finds_tryBlock : (tryBlock b).Finds [] Stmt.declarations := by
  refine .behind fun _ => (below_body block).finds.bind fun first => .behind fun _ => ?_
  refine (finds_handler block _).whileAccepted.bind fun handlers => ?_
  refine .ite (Finds.bind (finds_pure (List.append_nil _)) ?rest)
    ((finds_elseClause block).shift.bind ?rest)
  refine fun alternative => .behind fun _ => ?_
  refine .ite (Finds.bindPure (f := declarationsIn) (finds_lastBody block) ?last)
    (Finds.bind (finds_pure (List.append_nil _)) ?last)
  refine fun final => .guard <| finds_pure ?_
  simp

theorem finds_caseClause : (caseClause b).Finds [] Clause.declarations := by
  refine .behind fun _ => .behind fun _ => .behind fun _ => ?_
  refine .ite (.behind fun _ => .behind ?below) (.behind ?below)
  exact fun _ => (below_body block).finds.bind fun _ => finds_pure rfl

theorem finds_matchBlock : (matchBlock b).Finds [] Stmt.declarations := by
  refine .behind fun _ => .behind fun _ => .behind fun _ => .behind fun (subjects, comma) => ?_
  refine .guard <| .behind fun _ => .behind fun _ => .behind fun _ => ?_
  refine (finds_caseClause block).many.bind fun cases => .guard <| .behind fun _ => finds_pure ?_
  simp

theorem declares_body {start : Mark} {st : List Stmt → Mark → Stmt} {d : Mark → Declaration}
    (holds : ∀ statements stop, (st statements stop).declarations =
      d stop :: declarationsOf statements) (starts : ∀ stop, (d stop).start = start) :
    (body b >>= fun statements => lastEnd >>= fun stop => pure (st statements stop)).Reads
      (Declares start) := by
  intro c r h ts within
  obtain ⟨r₁, r₂, read, h, last⟩ := exists_of_bind h
  obtain ⟨r₃, r₄, seen, made, last'⟩ := exists_of_bind h
  cases seen
  cases made
  rw [← last, ← last']
  exact ⟨d _, _, holds .., starts _, below_body block c r₁ read ts within⟩

theorem finds_functionDef (decorators : List Expr) :
    (functionDef b decorators).Finds [] Stmt.declarations := by
  refine finds_here fun start => ?_
  refine .behind fun _ => .behind fun _ => .behind fun _ => .behind fun _ => .behind fun _ => ?_
  refine .behind fun _ => .behind fun _ => .ite (.behind ?_) (.behind ?_)
  all_goals exact fun _ => declares_body block (fun _ _ => rfl) fun _ => rfl

theorem finds_classDef (decorators : List Expr) :
    (classDef b decorators).Finds [] Stmt.declarations := by
  refine finds_here fun start => ?_
  refine .behind fun _ => .behind fun _ => .behind fun _ => .ite (.behind ?_) (.behind ?_)
  all_goals exact fun _ => declares_body block (fun _ _ => rfl) fun _ => rfl

theorem finds_decorated : (decorated b).Finds [] Stmt.declarations :=
  .behind fun _ => .behind fun _ =>
    .ite (finds_classDef block _) (finds_functionDef block _)

theorem finds_asynchronous : (asynchronous b).Finds [] Stmt.declarations := by
  refine .behind fun second => ?_
  split
  · exact finds_functionDef block []
  · exact .behind fun _ => finds_withBlock block
  · exact .behind fun _ => finds_forLoop block
  · exact .fail

omit block in
theorem finds_single {p : Parser Stmt} (found : p.Finds [] Stmt.declarations) :
    (statement.single p).Finds [] declarationsOf :=
  found.bind fun _ => finds_pure (List.append_nil _)

theorem finds_statement : (statement b).Finds [] declarationsOf := by
  have simple := (below_simpleStatements b.rules).finds
  refine .behind fun first => ?_
  split
  · exact finds_single (finds_conditional block)
  · exact finds_single (finds_whileLoop block)
  · exact finds_single (finds_forLoop block)
  · exact finds_single (finds_withBlock block)
  · exact finds_single (finds_tryBlock block)
  · exact finds_single (finds_functionDef block [])
  · exact finds_single (finds_classDef block [])
  · exact finds_single (finds_asynchronous block)
  · exact finds_single (finds_decorated block)
  · exact .orElse (finds_single (finds_matchBlock block)) simple
  · exact simple

theorem below_blockOf : (blockOf b).FindsBelow [] declarationsOf := by
  intro c r h ts within
  obtain ⟨r₁, r₂, read, h, last⟩ := exists_of_bind h
  rw [← last]
  split at h
  · next accepted =>
    obtain ⟨t, split, newline⟩ := exists_of_accept read accepted
    have inner : Finds (do
        expect .indent
        let statements ← many (statement b)
        expect .dedent
        if statements.isEmpty then fail
        return statements.flatten) [] declarationsOf := by
      refine .behind fun _ => (finds_statement block).many.bind fun statements => ?_
      refine .behind fun _ => .guard <| finds_pure ?_
      rw [List.nil_append, flatMap_declarationsOf]
    obtain ⟨line, rfl⟩ := within
    exact ⟨line, t, _, congrArg (line ++ ·) split, newline, inner _ r₂ h _ List.suffix_rfl⟩
  · exact below_simpleStatements b.rules _ r₂ h ts (r₁.2.trans within)

theorem finds_moduleOf : (moduleOf b).Finds [] declarationsOf := by
  refine (finds_statement block).many.bind fun statements => .behind fun _ => finds_pure ?_
  rw [List.nil_append, flatMap_declarationsOf]

end Bodies

theorem below_blockAt (r : Rules) (depth : Nat) :
    (blockAt r depth).FindsBelow [] declarationsOf := by
  induction depth with
  | zero => exact fun _ _ h => nomatch h
  | succ depth ih => exact below_blockOf ih

/-- The functions and classes of a text start on lines of their own, in order. -/
theorem pairwise_declarations {text : String} {statements : Module}
    (h : parseModule text = .ok statements) :
    (declarationsOf statements).Pairwise fun d e => d.start.line < e.start.line := by
  obtain ⟨ts, read, h⟩ := bind_eq_ok.mp h
  obtain ⟨⟨⟨found, rest⟩, within⟩, parsed, h⟩ := bind_eq_ok.mp h
  cases h
  have declared := finds_moduleOf (b := ⟨_, _, _⟩) (below_blockAt _ _) _ _ parsed ts List.suffix_rfl
  obtain ⟨taken, found, split, same, spaced⟩ := declared
  have all : declarationsOf statements = found := same
  have lines := pairwise_tokens read
  rw [split] at lines
  rw [all]
  exact spaced.pairwise_line (List.pairwise_append.mp lines).1

end CallDiagram.Source
