import CallBoundary.Host.Manifest
import CallBoundary.Proofs.Contract.SymbolNames
import CallBoundary.Proofs.Outcome

/-!
# The startup gate

A library that is loaded on demand is opened once, when it is first asked for, and everyone who asks
gets the answer found then (`startup_gate`).  It is the library just when this `Fits` its bindings,
and otherwise the `FirstFailure`.  Up to then no function of the library is looked for or called.

Every look at a library ends in one way, whatever was done before it, and is `Discreet`: what it
notes spares the functions.  Both are said at once by `Inspection.Ends`.
-/

namespace CallBoundary.Host

/-! ### Looking at a library -/

/-- The library is not opened, and none of its functions looked for or called. -/
def LibraryEvent.Discreet (ns : String) (e : LibraryEvent) : Prop :=
  e ≠ .opened ∧ ∀ f, e ≠ .sought (Symbol.name ns (.function f)) ∧
    e ≠ .called (Symbol.name ns (.function f))

theorem discreet_sought {ns : String} {s : Symbol} (hs : ∀ g, s ≠ .function g) :
    (LibraryEvent.sought (s.name ns)).Discreet ns :=
  ⟨nofun, fun f => ⟨fun h => Symbol.name_ne_function ns f hs (LibraryEvent.sought.inj h), nofun⟩⟩

theorem discreet_called {ns : String} {s : Symbol} (hs : ∀ g, s ≠ .function g) :
    (LibraryEvent.called (s.name ns)).Discreet ns :=
  ⟨nofun, fun f => ⟨nofun, fun h => Symbol.name_ne_function ns f hs (LibraryEvent.called.inj h)⟩⟩

namespace Inspection

variable {ns : String} {α β : Type}

/-- A look at a library ends so, whatever was done before it, and does nothing indiscreet. -/
def Ends (ns : String) (i : Inspection α) (r : Except StartupError α) : Prop :=
  ∀ past, ∃ seen, attempt i past = (r, past ++ seen) ∧ ∀ e ∈ seen, e.Discreet ns

theorem ends_pure (a : α) : Ends ns (pure a) (.ok a) :=
  fun past => ⟨[], by rw [List.append_nil]; rfl, nofun⟩

theorem ends_throw (e : StartupError) : Ends ns (throw e : Inspection α) (.error e) :=
  fun past => ⟨[], by rw [List.append_nil]; rfl, nofun⟩

theorem ends_note {e : LibraryEvent} (h : e.Discreet ns) : Ends ns (note e) (.ok ()) := by
  refine fun past => ⟨[e], rfl, ?_⟩
  rintro e' (_ | ⟨_, ⟨⟩⟩)
  exact h

theorem Ends.bind {i : Inspection α} {f : α → Inspection β} {a : α} {r : Except StartupError β}
    (hi : Ends ns i (.ok a)) (hf : Ends ns (f a) r) : Ends ns (i >>= f) r := by
  intro past
  obtain ⟨seen, hrun, hseen⟩ := hi past
  obtain ⟨seen', hrun', hseen'⟩ := hf (past ++ seen)
  refine ⟨seen ++ seen', ?_, ?_⟩
  · cases h : i past with
    | error e s =>
      rw [attempt_error h] at hrun
      cases hrun
    | ok a' s =>
      rw [attempt_ok h] at hrun
      cases hrun
      rw [← List.append_assoc, ← hrun', attempt, bind_of_ok h]
      rfl
  · intro e he
    rcases List.mem_append.1 he with he | he
    · exact hseen e he
    · exact hseen' e he

theorem Ends.bind_error {i : Inspection α} {e : StartupError} (hi : Ends ns i (.error e))
    (f : α → Inspection β) : Ends ns (i >>= f) (.error e) := by
  intro past
  obtain ⟨seen, hrun, hseen⟩ := hi past
  refine ⟨seen, ?_, hseen⟩
  cases h : i past with
  | error e' s =>
    rw [attempt_error h] at hrun
    cases hrun
    exact attempt_error (bind_of_error h f)
  | ok a s =>
    rw [attempt_ok h] at hrun
    cases hrun

/-- All looks of a row end well. -/
theorem ends_forM {f : α → Inspection Unit} : ∀ {xs : List α},
    (∀ x ∈ xs, Ends ns (f x) (.ok ())) → Ends ns (xs.forM f) (.ok ())
  | [], _ => ends_pure ()
  | _ :: _, h => (h _ (.head _)).bind (ends_forM fun y hy => h y (.tail _ hy))

/-- The first look of a row that ends badly is the last. -/
theorem ends_forM_error {f : α → Inspection Unit} {x : α} {after : List α} {e : StartupError}
    (hx : Ends ns (f x) (.error e)) : ∀ {before : List α},
    (∀ y ∈ before, Ends ns (f y) (.ok ())) → Ends ns ((before ++ x :: after).forM f) (.error e)
  | [], _ => hx.bind_error _
  | _ :: _, h => (h _ (.head _)).bind (ends_forM_error hx fun z hz => h z (.tail _ hz))

end Inspection

/-! ### What fits -/

/-- A symbol is there, and not null. -/
def SymbolTable.Has (t : SymbolTable) (name : String) : Prop := ∃ a, t.resolve name = some a

namespace Manifest

variable (m : Manifest) (t : SymbolTable)

/-- The checksum of a function is there, and the one expected. -/
def Agrees (f : String × UInt16) : Prop :=
  ∃ a, t.resolve (Symbol.name m.ns (.checksum f.1)) = some a ∧ a.toUInt16 = f.2

/-- What bindings ask of the symbols of a library. -/
structure Fits : Prop where
  buffers : ∀ e, t.Has (Symbol.name m.ns (.buffer e))
  version : t.resolve (Symbol.name m.ns .contractVersion) = some m.version
  futures : ∀ e c, t.Has (Symbol.name m.ns (.future e c))
  checksums : ∀ f ∈ m.checksums, m.Agrees t f

/-- All that a library has to export is there. -/
def Complete : Prop := ∀ s ∈ Symbol.required, t.Has (s.name m.ns)

/-- The first reason why a library cannot be used: there is none, or a symbol is missing that any
library has to export, or the contract version is another, or the checksum of a function is missing
or another. -/
inductive FirstFailure (m : Manifest) : Except StartupError SymbolTable → StartupError → Prop
  | loader (e : StartupError) : FirstFailure m (.error e) e
  | symbol {t : SymbolTable} {before after : List Symbol} {s : Symbol}
    (order : Symbol.required = before ++ s :: after)
    (found : ∀ r ∈ before, t.Has (r.name m.ns)) (missing : t.resolve (s.name m.ns) = none) :
    FirstFailure m (.ok t) (.missingSymbol (s.name m.ns))
  | version {t : SymbolTable} {v : UInt32} (complete : m.Complete t)
    (answer : t.resolve (Symbol.name m.ns .contractVersion) = some v) (differs : v ≠ m.version) :
    FirstFailure m (.ok t) (.wrongVersion m.version v)
  | noChecksum {t : SymbolTable} {before after : List (String × UInt16)} {f : String × UInt16}
    (complete : m.Complete t)
    (version : t.resolve (Symbol.name m.ns .contractVersion) = some m.version)
    (order : m.checksums = before ++ f :: after) (agreed : ∀ g ∈ before, m.Agrees t g)
    (missing : t.resolve (Symbol.name m.ns (.checksum f.1)) = none) :
    FirstFailure m (.ok t) (.missingSymbol (Symbol.name m.ns (.checksum f.1)))
  | checksum {t : SymbolTable} {before after : List (String × UInt16)} {f : String × UInt16}
    {a : UInt32} (complete : m.Complete t)
    (version : t.resolve (Symbol.name m.ns .contractVersion) = some m.version)
    (order : m.checksums = before ++ f :: after) (agreed : ∀ g ∈ before, m.Agrees t g)
    (answer : t.resolve (Symbol.name m.ns (.checksum f.1)) = some a) (differs : a.toUInt16 ≠ f.2) :
    FirstFailure m (.ok t) (.wrongChecksum f.1 f.2 a.toUInt16)

variable {m t}

theorem Fits.complete (h : m.Fits t) : m.Complete t :=
  Symbol.forall_required.2 ⟨h.buffers, ⟨_, h.version⟩, h.futures⟩

theorem Complete.fits (h : m.Complete t)
    (version : t.resolve (Symbol.name m.ns .contractVersion) = some m.version)
    (checksums : ∀ f ∈ m.checksums, m.Agrees t f) : m.Fits t := by
  obtain ⟨buffers, -, futures⟩ := Symbol.forall_required.1 h
  exact ⟨buffers, version, futures, checksums⟩

end Manifest

/-- Of the members of a list all are so, or there is a first that is not. -/
theorem all_or_first {α : Type} (p : α → Prop) (xs : List α) : (∀ x ∈ xs, p x) ∨
    ∃ before x after, xs = before ++ x :: after ∧ (∀ y ∈ before, p y) ∧ ¬ p x := by
  induction xs with
  | nil => exact .inl nofun
  | cons x xs ih =>
    by_cases hx : p x
    · rcases ih with h | ⟨before, y, after, rfl, hbefore, hy⟩
      · exact .inl (List.forall_mem_cons.2 ⟨hx, h⟩)
      · exact .inr ⟨x :: before, y, after, rfl, List.forall_mem_cons.2 ⟨hx, hbefore⟩, hy⟩
    · exact .inr ⟨[], x, xs, rfl, nofun, hx⟩

theorem SymbolTable.not_has {t : SymbolTable} {name : String} :
    ¬ t.Has name ↔ t.resolve name = none := by
  unfold SymbolTable.Has
  cases t.resolve name with
  | none => exact ⟨fun _ => rfl, fun _ h => nomatch h⟩
  | some a => exact ⟨fun h => absurd ⟨a, rfl⟩ h, nofun⟩

/-- A library fits or there is a first failure. -/
theorem Manifest.fits_or_fails (m : Manifest) (loader : Except StartupError SymbolTable) :
    (∃ t, loader = .ok t ∧ m.Fits t) ∨ ∃ e, m.FirstFailure loader e := by
  cases loader with
  | error e => exact .inr ⟨e, .loader e⟩
  | ok t =>
    rcases all_or_first (fun s => t.Has (s.name m.ns)) Symbol.required with
      complete | ⟨before, s, after, order, found, missing⟩
    · have complete : m.Complete t := complete
      obtain ⟨v, hv⟩ := complete .contractVersion (by decide)
      by_cases differs : v ≠ m.version
      · exact .inr ⟨_, .version complete hv differs⟩
      · obtain rfl : v = m.version := Decidable.not_not.1 differs
        rcases all_or_first (m.Agrees t) m.checksums with
          checksums | ⟨before, f, after, order, agreed, hf⟩
        · exact .inl ⟨t, rfl, complete.fits hv checksums⟩
        · cases answer : t.resolve (Symbol.name m.ns (.checksum f.1)) with
          | none => exact .inr ⟨_, .noChecksum complete hv order agreed answer⟩
          | some a =>
            refine .inr ⟨_, .checksum complete hv order agreed answer fun h => ?_⟩
            exact hf ⟨a, answer, h⟩
    · exact .inr ⟨_, .symbol order found (SymbolTable.not_has.1 missing)⟩

/-! ### How the checks end -/

section Ends

open Inspection

variable {m : Manifest} {ns : String} {t : SymbolTable} {α : Type}

theorem Inspection.Ends.discard {i : Inspection α} {a : α} (h : Ends ns i (.ok a)) :
    Ends ns (discard i) (.ok ()) :=
  h.bind (ends_pure ())

theorem ends_require {s : Symbol} (hs : ∀ g, s ≠ .function g) {a : UInt32}
    (h : t.resolve (s.name ns) = some a) : Ends ns (t.require (s.name ns)) (.ok a) := by
  unfold SymbolTable.require
  rw [h]
  exact (ends_note (discreet_sought hs)).bind (ends_pure a)

theorem ends_require_missing {s : Symbol} (hs : ∀ g, s ≠ .function g)
    (h : t.resolve (s.name ns) = none) :
    Ends ns (t.require (s.name ns)) (.error (.missingSymbol (s.name ns))) := by
  unfold SymbolTable.require
  rw [h]
  exact (ends_note (discreet_sought hs)).bind (ends_throw _)

theorem ends_load (complete : ∀ s ∈ Symbol.required, t.Has (s.name ns)) :
    Ends ns (Library.load t ns) (.ok ⟨ns, t⟩) := by
  refine (ends_forM fun s hs => ?_).bind (ends_pure _)
  obtain ⟨a, ha⟩ := complete s hs
  exact (ends_require (Symbol.ne_function_of_required hs) ha).discard

theorem ends_load_missing {before after : List Symbol} {s : Symbol}
    (order : Symbol.required = before ++ s :: after)
    (found : ∀ r ∈ before, t.Has (r.name ns)) (missing : t.resolve (s.name ns) = none) :
    Ends ns (Library.load t ns) (.error (.missingSymbol (s.name ns))) := by
  have hrequired : ∀ r ∈ before ++ s :: after, ∀ g, r ≠ .function g :=
    fun r hr => Symbol.ne_function_of_required (order ▸ hr)
  unfold Library.load
  rw [order]
  refine Ends.bind_error (ends_forM_error ?_ fun r hr => ?_) _
  · exact (ends_require_missing (hrequired s (by simp)) missing).bind_error _
  · obtain ⟨a, ha⟩ := found r hr
    exact (ends_require (hrequired r (by simp [hr])) ha).discard

theorem ends_askChecksum {f : String} {a : UInt32}
    (h : t.resolve (Symbol.name ns (.checksum f)) = some a) :
    Ends ns (Library.askChecksum ⟨ns, t⟩ f) (.ok a.toUInt16) :=
  (ends_require (by nofun) h).bind ((ends_note (discreet_called (s := .checksum f) nofun)).bind (ends_pure _))

theorem ends_checkFunction {f : String × UInt16} (h : m.Agrees t f) :
    Ends m.ns (Manifest.checkFunction ⟨m.ns, t⟩ f) (.ok ()) := by
  obtain ⟨a, ha, hsum⟩ := h
  refine (ends_askChecksum ha).bind ?_
  rw [if_pos hsum]
  exact ends_pure ()

theorem ends_checkFunction_missing {f : String × UInt16}
    (h : t.resolve (Symbol.name m.ns (.checksum f.1)) = none) :
    Ends m.ns (Manifest.checkFunction ⟨m.ns, t⟩ f)
      (.error (.missingSymbol (Symbol.name m.ns (.checksum f.1)))) :=
  ((ends_require_missing (by nofun) h).bind_error _).bind_error _

theorem ends_checkFunction_wrong {f : String × UInt16} {a : UInt32}
    (h : t.resolve (Symbol.name m.ns (.checksum f.1)) = some a) (differs : a.toUInt16 ≠ f.2) :
    Ends m.ns (Manifest.checkFunction ⟨m.ns, t⟩ f)
      (.error (.wrongChecksum f.1 f.2 a.toUInt16)) := by
  refine (ends_askChecksum h).bind ?_
  rw [if_neg differs]
  exact ends_throw _

theorem ends_askVersion {v : UInt32}
    (h : t.resolve (Symbol.name ns .contractVersion) = some v) :
    Ends ns (Library.askVersion ⟨ns, t⟩) (.ok v) := by
  have hv : Library.contractVersion ⟨ns, t⟩ = v := congrArg (Option.getD · 0) h
  rw [← hv]
  exact (ends_note (discreet_called (s := .contractVersion) nofun)).bind (ends_pure _)

/-- A comparison with the right version ends as that of the functions does. -/
theorem ends_compare {r : Except StartupError Unit}
    (version : t.resolve (Symbol.name m.ns .contractVersion) = some m.version)
    (h : Ends m.ns (m.checksums.forM (Manifest.checkFunction ⟨m.ns, t⟩)) r) :
    Ends m.ns (m.compare ⟨m.ns, t⟩) r := by
  refine (ends_askVersion version).bind ?_
  rw [if_neg (Decidable.not_not.2 rfl)]
  exact h

theorem ends_compare_wrong {v : UInt32}
    (h : t.resolve (Symbol.name m.ns .contractVersion) = some v) (differs : v ≠ m.version) :
    Ends m.ns (m.compare ⟨m.ns, t⟩) (.error (.wrongVersion m.version v)) := by
  refine (ends_askVersion h).bind ?_
  rw [if_pos differs]
  exact (ends_throw _).bind_error _

/-- A library that fits is what a look at it ends with. -/
theorem Manifest.Fits.ends_examine (h : m.Fits t) :
    Ends m.ns (m.examine (.ok t)) (.ok ⟨m.ns, t⟩) := by
  have hcompare : Ends m.ns (m.compare ⟨m.ns, t⟩) (.ok ()) :=
    ends_compare h.version (ends_forM fun f hf => ends_checkFunction (h.checksums f hf))
  exact (ends_pure t).bind ((ends_load h.complete).bind (hcompare.bind (ends_pure _)))

/-- Of all that is wrong, the first is what a look at a library ends with. -/
theorem Manifest.FirstFailure.ends_examine {loader : Except StartupError SymbolTable}
    {e : StartupError} (h : m.FirstFailure loader e) :
    Ends m.ns (m.examine loader) (.error e) := by
  cases h with
  | loader e => exact (ends_throw e).bind_error _
  | symbol order found missing =>
    exact (ends_pure _).bind ((ends_load_missing order found missing).bind_error _)
  | version complete answer differs =>
    refine (ends_pure _).bind ((ends_load complete).bind (Ends.bind_error ?_ _))
    exact ends_compare_wrong answer differs
  | noChecksum complete version order agreed missing =>
    refine (ends_pure _).bind ((ends_load complete).bind (Ends.bind_error ?_ _))
    refine ends_compare version (order ▸ ends_forM_error ?_ ?_)
    · exact ends_checkFunction_missing missing
    · exact fun g hg => ends_checkFunction (agreed g hg)
  | checksum complete version order agreed answer differs =>
    refine (ends_pure _).bind ((ends_load complete).bind (Ends.bind_error ?_ _))
    refine ends_compare version (order ▸ ends_forM_error ?_ ?_)
    · exact ends_checkFunction_wrong answer differs
    · exact fun g hg => ends_checkFunction (agreed g hg)

theorem Inspection.Ends.unique {i : Inspection α} {r r' : Except StartupError α}
    (h : Ends ns i r) (h' : Ends ns i r') : r = r' := by
  obtain ⟨seen, hrun, -⟩ := h []
  obtain ⟨seen', hrun', -⟩ := h' []
  exact congrArg Prod.fst (hrun.symm.trans hrun')

/-- A look at a library ends with the library if it fits, and else with the first failure. -/
theorem Manifest.examined (m : Manifest) (loader : Except StartupError SymbolTable) :
    ∃ r, Ends m.ns (m.examine loader) r ∧
      (∀ l, r = .ok l ↔ ∃ t, loader = .ok t ∧ m.Fits t ∧ l = ⟨m.ns, t⟩) ∧
      ∀ e, r = .error e ↔ m.FirstFailure loader e := by
  rcases m.fits_or_fails loader with ⟨t, rfl, fits⟩ | ⟨e, failure⟩
  · refine ⟨_, fits.ends_examine, fun l => ⟨?_, ?_⟩, fun e => ⟨nofun, fun failure => ?_⟩⟩
    · rintro ⟨⟩
      exact ⟨t, rfl, fits, rfl⟩
    · rintro ⟨t, ⟨⟩, -, rfl⟩
      rfl
    · exact fits.ends_examine.unique failure.ends_examine
  · refine ⟨_, failure.ends_examine, fun l => ⟨nofun, ?_⟩, fun e' => ⟨?_, fun failure' => ?_⟩⟩
    · rintro ⟨t, rfl, fits, -⟩
      cases failure.ends_examine.unique fits.ends_examine
    · rintro ⟨⟩
      exact failure
    · exact failure.ends_examine.unique failure'.ends_examine

end Ends

/-! ### Asking for the library -/

/-- A way to ask for the library: for the outcome of loading it, or for the library itself. -/
inductive Access where
  | outcome
  | library
deriving DecidableEq, Repr

/-- What is given to whoever asks. -/
inductive Given where
  | outcome (r : Except StartupError Library)
  | library (d : Demanded)

namespace Access

/-- Asks for the library. -/
def run : Access → StateM LazyLibrary Given
  | outcome => return .outcome (← LazyLibrary.get)
  | library => return .library (← LazyLibrary.demand)

/-- What is given if loading has this outcome. -/
def given (r : Except StartupError Library) : Access → Given
  | outcome => .outcome r
  | library => .library (.ofExcept r)

theorem run_apply (a : Access) (l : LazyLibrary) :
    a.run l = (a.given (LazyLibrary.get l).1, (LazyLibrary.get l).2) := by
  cases a <;> rfl

end Access

namespace LazyLibrary

/-- The library is asked for, again and again. -/
def serve (as : List Access) : StateM LazyLibrary (List Given) := as.mapM Access.run

/-- What is known is not found out again. -/
theorem serve_loaded {l : LazyLibrary} {r : Except StartupError Library} (h : l.loaded = some r) :
    ∀ as : List Access, serve as l = (as.map (·.given r), l) := by
  intro as
  have hget : get l = (r, l) := by
    unfold get
    rw [h]
  induction as with
  | nil => rfl
  | cons a as ih =>
    unfold serve at ih ⊢
    rw [List.mapM_cons, stateM_bind, Access.run_apply, hget, stateM_bind, ih]
    rfl

theorem serve_first {l : LazyLibrary} {r : Except StartupError Library}
    {events : List LibraryEvent} (h : l.loaded = none)
    (hload : attempt l.load l.events = (r, events)) (a : Access) (as : List Access) :
    serve (a :: as) l = ((a :: as).map (·.given r), { l with loaded := some r, events }) := by
  have hget : get l = (r, { l with loaded := some r, events }) := by
    unfold get
    rw [h, hload]
  have hrest := serve_loaded (l := { l with loaded := some r, events }) rfl as
  unfold serve at hrest ⊢
  rw [List.mapM_cons, stateM_bind, Access.run_apply, hget, stateM_bind, hrest]
  rfl

end LazyLibrary

/-- **The startup gate.**  However often and in whatever way a library is asked for, it is opened
once, when it is first asked for, and all are given the same: the library, if the loader finds one
that fits, and otherwise the first failure.  Meanwhile no function of the library is looked for, let
alone called. -/
theorem LazyLibrary.startup_gate (m : Manifest) (loader : Except StartupError SymbolTable) :
    ∃ (verdict : Except StartupError Library) (seen : List LibraryEvent),
      (∀ as : List Access,
        let run := LazyLibrary.serve as { manifest := m, loader }
        run.1 = as.map (·.given verdict) ∧
        run.2.events = (if as = [] then [] else .opened :: seen) ∧
        run.2.loads = if as = [] then 0 else 1) ∧
      (∀ l, verdict = .ok l ↔ ∃ t, loader = .ok t ∧ m.Fits t ∧ l = ⟨m.ns, t⟩) ∧
      (∀ e, verdict = .error e ↔ m.FirstFailure loader e) ∧
      ∀ e ∈ seen, e.Discreet m.ns := by
  obtain ⟨verdict, ends, hfits, hfails⟩ := m.examined loader
  obtain ⟨seen, hrun, hseen⟩ := ends [.opened]
  refine ⟨verdict, seen, ?_, hfits, hfails, hseen⟩
  rintro (_ | ⟨a, as⟩)
  · exact ⟨rfl, rfl, rfl⟩
  · have hload : attempt (LazyLibrary.load { manifest := m, loader }) [] =
        (verdict, .opened :: seen) := hrun
    intro run
    have hserve : run = _ := LazyLibrary.serve_first rfl hload a as
    rw [hserve]
    have hnot : LibraryEvent.opened ∉ seen := fun h => (hseen _ h).1 rfl
    refine ⟨rfl, rfl, ?_⟩
    show List.count .opened (.opened :: seen) = 1
    rw [List.count_cons_self, List.count_eq_zero.2 hnot]

end CallBoundary.Host
