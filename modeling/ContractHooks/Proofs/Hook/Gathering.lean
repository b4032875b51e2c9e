-- What calls that ask for symbols come to. The symbols that are kept, each at its first request,
-- decide the sections and what has been seen alike, so that the two never part: a section is not
-- empty and stands once, and as many names are written as have been seen. A request that is dropped
-- leaves no trace, and one that has been made before changes nothing.
import ContractHooks.Proofs.Hook.Import

namespace ContractHooks.Imports

/-! ## Calls -/

/-- A call that asks for one symbol, or for several in order. -/
inductive Call
  | request (s : Symbol)
  | requestAll (symbols : List Symbol)
  deriving Repr, DecidableEq

/-- The symbols that a call asks for. -/
def Call.symbols : Call → List Symbol
  | .request s => [s]
  | .requestAll symbols => symbols

namespace Gathering

/-- The gathering after a call. -/
def call (g : Gathering) : Call → Gathering
  | .request s => g.request s
  | .requestAll symbols => g.requestAll symbols

/-- What has been gathered after calls in order. -/
def after (annotated : Bool) (calls : List Call) : Gathering :=
  calls.foldl call (start annotated)

theorem call_eq_requestAll (g : Gathering) (c : Call) : g.call c = g.requestAll c.symbols := by
  cases c <;> rfl

/-- It does not matter by which calls symbols are asked for. -/
theorem after_eq_ofPairs (annotated : Bool) (calls : List Call) :
    after annotated calls =
      ofPairs annotated (requested annotated (calls.flatMap Call.symbols)) := by
  have hcalls : after annotated calls =
      (start annotated).requestAll (calls.flatMap Call.symbols) := by
    unfold after
    rw [funext₂ call_eq_requestAll]
    exact (List.foldl_flatMap ..).symm
  rw [hcalls, requestAll_start]

/-! ## One more request -/

variable {annotated : Bool} {ps : List (String × String)} {s : Symbol}

/-- A request that is dropped changes nothing. -/
theorem request_of_dropped (h : s.isKept annotated = false) :
    (ofPairs annotated ps).request s = ofPairs annotated ps := by
  rw [request_ofPairs, h]
  simp

/-- A request for what has been seen changes nothing. -/
theorem request_of_seen (h : s.pair ∈ ps) :
    (ofPairs annotated ps).request s = ofPairs annotated ps := by
  rw [request_ofPairs]
  simp [h]

/-- Whatever has been asked for before, a request that is kept is for something that is then
imported. -/
theorem pair_mem_request (h : s.isKept annotated = true) :
    s.pair ∈ ((ofPairs annotated ps).request s).imports.pairs := by
  rw [request_ofPairs]
  refine mem_pairs_gathered.2 ?_
  by_cases hs : s.pair ∈ ps <;> simp [h, hs]

end Gathering

/-! ## The law -/

/-- After any calls the state is told by the symbols that were asked for: those are kept that a
dialect imports, each at the first request for its library and name. The sections are those of the
libraries in the order in which they first come up, each with its names in order. No section is
empty and none stands twice, the count is that of the names that are written, and the text has a
line for each library. What is dropped leaves the state as it is, and what is kept is imported
whatever was dropped before; a symbol that has been asked for changes nothing when it is asked for
again. -/
theorem imports_are_what_is_requested_first (annotated : Bool) (calls : List Call) :
    let symbols := calls.flatMap Call.symbols
    let kept := ((symbols.filter fun s => !s.typeOnly || annotated).map Symbol.pair).eraseDups
    let libraries := (kept.map Prod.fst).eraseDups
    let names := fun library => (kept.filter fun p => p.1 == library).map Prod.snd
    let g := Gathering.after annotated calls
    g = ⟨annotated, ⟨libraries.map fun library => (library, names library)⟩, kept⟩ ∧
    (∀ s ∈ g.imports.sections, s.2 ≠ []) ∧
    (g.imports.sections.map Prod.fst).Nodup ∧
    g.count = (g.imports.sections.flatMap Prod.snd).length ∧
    g.imports.text = String.intercalate "\n" (libraries.map fun library =>
      "import \x7b " ++ String.intercalate ", " (names library) ++ " \x7d from '" ++ library
        ++ "'") ∧
    (∀ s, s.typeOnly = true → annotated = false → g.request s = g) ∧
    (∀ s, s.typeOnly = false ∨ annotated = true → s.pair ∈ (g.request s).imports.pairs) ∧
    ∀ s ∈ symbols, g.request s = g := by
  intro symbols kept libraries names g
  have hg : g = Gathering.ofPairs annotated kept := Gathering.after_eq_ofPairs annotated calls
  have hsections : g.imports.sections = libraries.map fun library => (library, names library) := by
    rw [hg]
    rfl
  refine ⟨hg, ?_, ?_, ?_, ?_, ?_, ?_, ?_⟩
  · intro s hs
    rw [hsections] at hs
    obtain ⟨library, hlibrary, rfl⟩ := List.mem_map.1 hs
    obtain ⟨p, hp, rfl⟩ := List.mem_map.1 (List.mem_eraseDups.1 hlibrary)
    exact List.ne_nil_of_mem (mem_namesOf_iff.2 hp)
  · rw [hg]
    exact (map_fst_gathered kept).symm ▸ nodup_eraseDups _
  · rw [length_names, hg]
    exact (pairs_gathered_perm (nodup_eraseDups _)).length_eq.symm
  · rw [text, hsections, List.map_map]
    rfl
  · intro s htype hplain
    rw [hg]
    exact Gathering.request_of_dropped (by simp [Symbol.isKept, htype, hplain])
  · intro s hs
    rw [hg]
    exact Gathering.pair_mem_request (by simpa [Symbol.isKept] using hs)
  · intro s hs
    rw [hg]
    cases hkept : s.isKept annotated with
    | false => exact Gathering.request_of_dropped hkept
    | true =>
      refine Gathering.request_of_seen (List.mem_eraseDups.2 ?_)
      exact List.mem_map_of_mem (List.mem_filter.2 ⟨hs, hkept⟩)

-- The type is dropped, and the function of its name is imported all the same.
example : (Gathering.after false [.requestAll [.action "total", .useNetwork],
    .request ⟨Symbol.actionLibrary, "total", false⟩]).imports.text =
    "import \x7b useNetwork \x7d from 'wagmi'\nimport \x7b total \x7d from 'wagmi/actions'" := by
  decide

end ContractHooks.Imports
