import CallDiagram.CallSite.Listing

/-! # Listed call sites

The call sites of a function are those that the provider knows, read one by one and put in order.
-/

namespace CallDiagram

theorem CallSite.inOrder_pair (a b : CallSite) :
    inOrder [a, b] = if b.precedes a then [b, a] else [a, b] := by
  rw [inOrder]
  cases earlier : b.precedes a <;>
    simp [List.mergeSort, List.MergeSort.Internal.splitInTwo, earlier]

namespace Provider

variable {p : Provider} {s : Settings} {function : Item}

def readSites (p : Provider) (s : Settings) (caller : Document) (calls : List OutgoingCall) :
    List CallSite :=
  (flattenCalls calls).map fun (target, range) => (p.callSite s caller target range).1

/-- Nothing but the caller's own data keeps its call sites from being listed. -/
theorem callSites_of {calls : List OutgoingCall} {text : String}
    (answered : p.outgoingCalls function = .ok calls)
    (source : p.sourceText function.uri = .ok text) :
    ∃ warnings, p.callSites s function =
      .ok (CallSite.inOrder (p.readSites s (.ofString text) calls), warnings) := by
  unfold callSites
  simp only [answered, source, List.map_map]
  exact ⟨_, rfl⟩

/-- A call site comes from a call that the provider knows. -/
theorem target_of_callSites {sites : List CallSite} {warnings : List SiteWarning}
    (listed : p.callSites s function = .ok (sites, warnings)) {site : CallSite}
    (member : site ∈ sites) :
    ∃ calls, p.outgoingCalls function = .ok calls ∧ ∃ call ∈ calls, call.target = site.target := by
  cases answered : p.outgoingCalls function with
  | error cause => simp [callSites, answered] at listed
  | ok calls =>
      cases source : p.sourceText function.uri with
      | error cause => simp [callSites, answered, source] at listed
      | ok text =>
          obtain ⟨_, known⟩ := callSites_of (s := s) answered source
          rw [known] at listed
          obtain ⟨rfl, -⟩ := Prod.mk.inj (Except.ok.inj listed)
          have unsorted := (List.mergeSort_perm _ _).mem_iff.mp member
          obtain ⟨⟨target, range⟩, flat, rfl⟩ := List.mem_map.mp unsorted
          obtain ⟨call, known, grouped⟩ := List.mem_flatMap.mp flat
          obtain ⟨_, -, same⟩ := List.mem_map.mp grouped
          obtain ⟨rfl, -⟩ := Prod.mk.inj same
          exact ⟨calls, rfl, call, known, rfl⟩

end Provider

end CallDiagram
