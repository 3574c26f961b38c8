import CallBoundary.Proofs.Host.Startup

/-!
# Libraries that fit

A symbol table answers with what was last put under a name (`resolve_insert`).  A library that is
built for a namespace, a contract version and the checksums of its functions therefore has all that
bindings ask for who expect just this (`fits_exporting`), and the startup gate lets it pass
(`passes_iff_fits`).
-/

namespace CallBoundary

theorem Symbol.ne_checksum_of_required {s : Symbol} (hs : s ∈ required) : ∀ g, s ≠ .checksum g :=
  (forall_required (p := fun s => ∀ g, s ≠ .checksum g)).2 ⟨nofun, nofun, nofun⟩ s hs

namespace Host

namespace SymbolTable

/-! ### Symbols in a table -/

theorem lookup_filter_of_ne {name other : String} (h : other ≠ name) (t : SymbolTable) :
    (t.filter (·.1 != name)).lookup other = t.lookup other := by
  induction t with
  | nil => rfl
  | cons e t ih =>
    by_cases he : e.1 = name
    · have hskip : (other == e.1) = false := beq_eq_false_iff_ne.2 (he ▸ h)
      rw [List.filter_cons_of_neg (by simp [he]), ih, List.lookup_cons, hskip]
    · rw [List.filter_cons_of_pos (by simp [he]), List.lookup_cons, List.lookup_cons, ih]

theorem lookup_filter_self (t : SymbolTable) (name : String) :
    (t.filter (·.1 != name)).lookup name = none := by
  refine List.lookup_eq_none_iff.2 fun e he => ?_
  rw [bne_comm]
  exact (List.mem_filter.1 he).2

/-- A table answers with what was last put under a name. -/
theorem resolve_insert (t : SymbolTable) (name other : String) (a : Option UInt32) :
    (t.insert name a).resolve other = if other = name then a else t.resolve other := by
  rw [resolve, insert, List.lookup_append]
  by_cases h : other = name
  · subst h
    rw [lookup_filter_self, if_pos rfl, Option.none_or, List.lookup_cons_self]
    rfl
  · have hskip : (other == name) = false := beq_eq_false_iff_ne.2 h
    rw [lookup_filter_of_ne h, if_neg h, List.lookup_cons, hskip, List.lookup_nil, Option.or_none,
      resolve]

variable {ns : String} {s : Symbol}

/-- Symbols of one namespace do not hide each other. -/
theorem resolve_symbols (value : Symbol → UInt32) {symbols : List Symbol} (hs : s ∈ symbols) :
    resolve (symbols.map fun r => (r.name ns, some (value r))) (s.name ns) = some (value s) := by
  induction symbols with
  | nil => cases hs
  | cons r symbols ih =>
    rw [resolve, List.map_cons, List.lookup_cons]
    by_cases h : s.name ns = r.name ns
    · rw [h, beq_self_eq_true, Symbol.eq_of_label_ending (Symbol.label_ending_of_name h)]
      rfl
    · have hne : s ≠ r := fun e => h (congrArg (Symbol.name ns) e)
      have hskip : (s.name ns == r.name ns) = false := beq_eq_false_iff_ne.2 h
      rw [hskip]
      exact ih ((List.mem_cons.1 hs).resolve_left hne)

/-- A table with one more function and its checksum. -/
def withFunction (ns : String) (t : SymbolTable) (f : String × UInt16) : SymbolTable :=
  (t.insert (Symbol.name ns (.checksum f.1)) (some f.2.toUInt32)).insert
    (Symbol.name ns (.function f.1)) (some 0)

theorem exporting_eq (ns : String) (version : UInt32) (functions : List (String × UInt16)) :
    exporting ns version functions = functions.foldl (withFunction ns)
      (Symbol.required.map fun s =>
        (s.name ns, some (if s = .contractVersion then version else 0))) := rfl

theorem resolve_withFunction_checksum (t : SymbolTable) (f : String × UInt16) :
    (withFunction ns t f).resolve (Symbol.name ns (.checksum f.1)) = some f.2.toUInt32 := by
  have hne : Symbol.name ns (.checksum f.1) ≠ Symbol.name ns (.function f.1) :=
    Symbol.name_ne_function ns f.1 nofun
  rw [withFunction, resolve_insert, if_neg hne, resolve_insert, if_pos rfl]

/-- A function hides no other symbol. -/
theorem resolve_withFunction_of_ne {f : String × UInt16} (hf : s ≠ .function f.1)
    (hc : s ≠ .checksum f.1) (t : SymbolTable) :
    (withFunction ns t f).resolve (s.name ns) = t.resolve (s.name ns) := by
  have apart {r : Symbol} (h : s ≠ r) : s.name ns ≠ r.name ns :=
    fun e => h (Symbol.eq_of_label_ending (Symbol.label_ending_of_name e))
  rw [withFunction, resolve_insert, if_neg (apart hf), resolve_insert, if_neg (apart hc)]

theorem resolve_withFunctions_of_ne {functions : List (String × UInt16)}
    (h : ∀ f ∈ functions, s ≠ .function f.1 ∧ s ≠ .checksum f.1) (t : SymbolTable) :
    (functions.foldl (withFunction ns) t).resolve (s.name ns) = t.resolve (s.name ns) := by
  induction functions generalizing t with
  | nil => rfl
  | cons f functions ih =>
    obtain ⟨hf, hc⟩ := h f (.head _)
    rw [List.foldl_cons, ih (fun g hg => h g (.tail _ hg)), resolve_withFunction_of_ne hf hc]

/-- Functions that are called differently keep their checksums. -/
theorem resolve_withFunctions_checksum {functions : List (String × UInt16)}
    (distinct : (functions.map Prod.fst).Nodup) {f : String × UInt16} (hf : f ∈ functions)
    (t : SymbolTable) : (functions.foldl (withFunction ns) t).resolve
      (Symbol.name ns (.checksum f.1)) = some f.2.toUInt32 := by
  induction functions generalizing t with
  | nil => cases hf
  | cons g functions ih =>
    obtain ⟨hnew, hrest⟩ := List.nodup_cons.1 distinct
    rw [List.foldl_cons]
    rcases List.mem_cons.1 hf with rfl | hf
    · have later : ∀ g ∈ functions, Symbol.checksum f.1 ≠ .function g.1 ∧
          Symbol.checksum f.1 ≠ .checksum g.1 := by
        refine fun g hg => ⟨nofun, fun h => hnew ?_⟩
        rw [Symbol.checksum.inj h]
        exact List.mem_map_of_mem hg
      rw [resolve_withFunctions_of_ne later, resolve_withFunction_checksum]
    · exact ih hrest hf _

end SymbolTable

namespace Manifest

variable {m : Manifest}

/-- **A library that exports what bindings expect fits them.** -/
theorem fits_exporting (distinct : (m.checksums.map Prod.fst).Nodup) :
    m.Fits (.exporting m.ns m.version m.checksums) := by
  have required : ∀ s ∈ Symbol.required,
      (SymbolTable.exporting m.ns m.version m.checksums).resolve (s.name m.ns) =
        some (if s = .contractVersion then m.version else 0) := by
    intro s hs
    have other : ∀ f ∈ m.checksums, s ≠ .function f.1 ∧ s ≠ .checksum f.1 := fun f _ =>
      ⟨Symbol.ne_function_of_required hs f.1, Symbol.ne_checksum_of_required hs f.1⟩
    rw [SymbolTable.exporting_eq, SymbolTable.resolve_withFunctions_of_ne other,
      SymbolTable.resolve_symbols _ hs]
  have complete : m.Complete (.exporting m.ns m.version m.checksums) :=
    fun s hs => ⟨_, required s hs⟩
  refine complete.fits (required .contractVersion (by decide)) fun f hf => ?_
  exact ⟨_, SymbolTable.resolve_withFunctions_checksum distinct hf _, UInt16.toUInt16_toUInt32 f.2⟩

/-- The gate lets a library pass if and only if it fits. -/
theorem passes_iff_fits {t : SymbolTable} :
    (∃ l, (LazyLibrary.get { manifest := m, loader := .ok t }).1 = .ok l) ↔ m.Fits t := by
  obtain ⟨r, ends, hok, -⟩ := m.examined (.ok t)
  obtain ⟨seen, hrun, -⟩ := ends [.opened]
  have hget : (LazyLibrary.get { manifest := m, loader := .ok t }).1 = r := congrArg Prod.fst hrun
  rw [hget]
  constructor
  · rintro ⟨l, hl⟩
    obtain ⟨t', ⟨⟩, fits, -⟩ := (hok l).1 hl
    exact fits
  · intro fits
    exact ⟨⟨m.ns, t⟩, (hok _).2 ⟨t, rfl, fits, rfl⟩⟩

end Manifest

end Host

end CallBoundary
