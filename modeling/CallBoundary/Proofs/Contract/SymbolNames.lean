import CallBoundary.Contract.SymbolName

/-!
# Names kept apart

Functions and interfaces are called what their author likes, and still no two symbols of a namespace
have the same name (`name_injective`).  A name is an opening, the namespace, a label that says what
kind of symbol it is, and an ending that says which one (`name_eq`).  No label begins another one, so
what an author puts behind one label cannot imitate another.

What a library has to export is just its buffers, its version and its futures (`forall_required`).
-/

namespace CallBoundary

namespace Category

theorem mem_all (c : Category) : c ∈ all := by
  cases c with
  | scalar t => cases t <;> decide
  | _ => decide

/-- The ending of its symbols' names tells which category it is. -/
theorem ofSuffix?_suffix (c : Category) : ofSuffix? c.suffix = some c := by
  cases c with
  | scalar t => cases t <;> decide
  | _ => decide

theorem suffix_injective : Function.Injective suffix := by
  intro c d h
  have hread : ofSuffix? c.suffix = some d := h ▸ ofSuffix?_suffix d
  exact Option.some.inj ((ofSuffix?_suffix c).symm.trans hread)

end Category

theorem BufferEntry.word_injective : Function.Injective word := by
  intro e e' h
  cases e <;> cases e' <;> first | rfl | exact absurd h (by decide)

/-- No word begins another one, so it can be told from what follows it. -/
theorem FutureEntry.word_append_inj {e e' : FutureEntry} {x y : String}
    (h : e.word ++ x = e'.word ++ y) : e = e' ∧ x = y := by
  have h := congrArg String.toList h
  cases e <;> cases e' <;> simp [word] at h ⊢
  all_goals exact String.toList_inj.1 h

namespace Symbol

/-! ### The parts of a name -/

/-- What a name begins with. -/
def opening : Symbol → String
  | buffer _ | contractVersion | future _ _ => "ffi_"
  | function _ | checksum _ | callbacks _ => "uniffi_"

/-- What follows the namespace in a name. -/
def label : Symbol → String
  | buffer _ => "_rustbuffer_"
  | contractVersion => "_uniffi_contract_version"
  | future _ _ => "_rust_future_"
  | function _ => "_fn_func_"
  | checksum _ => "_checksum_func_"
  | callbacks _ => "_fn_init_callback_vtable_"

/-- What a name ends in. -/
def ending : Symbol → String
  | buffer e => e.word
  | contractVersion => ""
  | future e c => e.word ++ ("_" ++ c.suffix)
  | function f | checksum f => f
  | callbacks i => i

theorem name_eq (ns : String) (s : Symbol) :
    s.name ns = s.opening ++ (ns ++ (s.label ++ s.ending)) := by
  have assoc (a b c d : String) : a ++ b ++ c ++ d = a ++ (b ++ (c ++ d)) := by
    rw [String.append_assoc, String.append_assoc]
  cases s with
  | contractVersion => exact String.append_empty.symm.trans (assoc _ _ _ _)
  | future e c => exact (assoc _ _ _ _).trans (assoc _ _ _ _)
  | _ => exact assoc _ _ _ _

/-- Two openings are the same or differ in their first letters. -/
theorem opening_append_inj {s t : Symbol} {x y : String} (h : s.opening ++ x = t.opening ++ y) :
    x = y := by
  have h := congrArg String.toList h
  cases s <;> cases t <;> simp [opening] at h
  all_goals exact String.toList_inj.1 h

theorem label_ending_of_name {ns : String} {s t : Symbol} (h : s.name ns = t.name ns) :
    s.label ++ s.ending = t.label ++ t.ending := by
  rw [name_eq, name_eq] at h
  have hrest : ns ++ (s.label ++ s.ending) = ns ++ (t.label ++ t.ending) := opening_append_inj h
  exact (String.append_right_inj ns).1 hrest

/-- **A label and an ending tell the symbol.** -/
theorem eq_of_label_ending {s t : Symbol} (h : s.label ++ s.ending = t.label ++ t.ending) :
    s = t := by
  -- of one kind they have the same label, which cancels
  have cancel {l x y : String} (h : l ++ x = l ++ y) : x = y := (String.append_right_inj l).1 h
  cases s <;> cases t
  case buffer.buffer => exact congrArg buffer (BufferEntry.word_injective (cancel h))
  case contractVersion.contractVersion => rfl
  case future.future =>
    obtain ⟨rfl, hsuffix⟩ := FutureEntry.word_append_inj (cancel h)
    exact congrArg (future _) (Category.suffix_injective (cancel hsuffix))
  case function.function => exact congrArg function (cancel h)
  case checksum.checksum => exact congrArg checksum (cancel h)
  case callbacks.callbacks => exact congrArg callbacks (cancel h)
  -- of two kinds the labels differ in a letter that both of them have
  all_goals
    have hletters := congrArg String.toList h
    simp [label] at hletters

/-! ### Names -/

/-- **No two symbols of a namespace have the same name**, whatever functions and interfaces are
called. -/
theorem name_injective (ns : String) : Function.Injective (name ns) := by
  intro s t h
  exact eq_of_label_ending (label_ending_of_name h)

/-- Two namespaces may well share a name. -/
example : name "a" (.function "b_fn_func_c") = name "a_fn_func_b" (.function "c") := by decide

/-- No function is taken for anything else. -/
theorem name_ne_function (ns f : String) {s : Symbol} (hs : ∀ g, s ≠ .function g) :
    s.name ns ≠ name ns (.function f) := by
  intro h
  exact hs f (eq_of_label_ending (label_ending_of_name h))

/-! ### What is required -/

/-- What holds of all that a library has to export. -/
theorem forall_required {p : Symbol → Prop} : (∀ s ∈ required, p s) ↔
    (∀ e, p (.buffer e)) ∧ p .contractVersion ∧ ∀ e c, p (.future e c) := by
  constructor
  · intro h
    refine ⟨fun e => h _ ?_, h _ (by decide), fun e c => h _ ?_⟩
    · cases e <;> decide
    · refine List.mem_append_right _ (List.mem_flatMap.2 ⟨c, c.mem_all, ?_⟩)
      cases e <;> simp
  · rintro ⟨hb, hv, hf⟩ s hs
    simp only [required, List.mem_append, List.mem_flatMap, List.mem_cons, List.not_mem_nil,
      or_false] at hs
    rcases hs with (rfl | rfl | rfl | rfl | rfl) | ⟨c, -, rfl | rfl | rfl | rfl⟩
    · exact hb _
    · exact hb _
    · exact hb _
    · exact hb _
    · exact hv
    · exact hf _ c
    · exact hf _ c
    · exact hf _ c
    · exact hf _ c

theorem ne_function_of_required {s : Symbol} (hs : s ∈ required) : ∀ g, s ≠ .function g :=
  (forall_required (p := fun s => ∀ g, s ≠ .function g)).2 ⟨nofun, nofun, nofun⟩ s hs

end Symbol

end CallBoundary
