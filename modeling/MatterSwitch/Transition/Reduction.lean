import Mathlib.Data.List.Forall2
import MatterSwitch.Transition.Loop
import MatterSwitch.Transition.Run

/-! # Reduction of interleavings to complete steps

Signals fall between the statements of a loop. A signal that commutes with the statements
executed so far moves to the start of the iteration, one that commutes with the statements to
come waits for its end, and then the iteration is one complete step. No signal moves further
than to an end of the iteration it falls into, and signals of one source keep their order. -/

namespace MatterSwitch.Transition

variable {ι σ π α κ : Type*}

/-- A change that commutes with every event of a list. -/
theorem run_commute {Inv : σ → Prop} {step : σ → α → σ} {f : σ → σ}
    (hinv : ∀ t a, Inv t → Inv (step t a)) {as : List α}
    (hf : ∀ a ∈ as, ∀ t, Inv t → step (f t) a = f (step t a)) {t : σ} (ht : Inv t) :
    run step (f t) as = f (run step t as) := by
  induction as generalizing t with
  | nil => rfl
  | cons a as ih =>
      rw [run_cons, run_cons, hf a List.mem_cons_self t ht]
      exact ih (fun b hb => hf b (List.mem_cons_of_mem a hb)) (hinv t a ht)

/-- Signals and complete iterations, one after the other. -/
def serial (signal : σ → α → σ) (body : ι → σ → σ) (s : σ) : α ⊕ ι → σ
  | .inl a => signal s a
  | .inr i => body i s

/-- The signals of a serial run, each with the number of iterations before it, from `n` on. -/
def placed (n : ℕ) : List (α ⊕ ι) → List (α × ℕ)
  | [] => []
  | .inl a :: cs => (a, n) :: placed n cs
  | .inr _ :: cs => placed (n + 1) cs

theorem placed_append (n : ℕ) (cs cs' : List (α ⊕ ι)) :
    placed n (cs ++ cs') =
      placed n cs ++ placed (n + (cs.filterMap Sum.getRight?).length) cs' := by
  induction cs generalizing n with
  | nil => rfl
  | cons c cs ih =>
      cases c with
      | inl a => exact congrArg ((a, n) :: ·) (ih n)
      | inr i =>
          have hn : n + ((Sum.inr i :: cs).filterMap Sum.getRight?).length =
              n + 1 + (cs.filterMap Sum.getRight?).length := by
            change n + ((cs.filterMap Sum.getRight?).length + 1) = _
            omega
          rw [List.cons_append, placed, ih, hn, placed]

theorem placed_signals (n : ℕ) (as : List α) :
    placed n (as.map .inl : List (α ⊕ ι)) = as.map fun a => (a, n) := by
  induction as with
  | nil => rfl
  | cons a as ih => exact congrArg ((a, n) :: ·) ih

theorem exists_placed {a : α} {cs : List (α ⊕ ι)} (h : .inl a ∈ cs) (n : ℕ) :
    ∃ k, (a, k) ∈ placed n cs := by
  induction cs generalizing n with
  | nil => exact absurd h List.not_mem_nil
  | cons c cs ih =>
      cases c with
      | inl b =>
          rcases List.mem_cons.mp h with heq | h
          · exact ⟨n, by rw [Sum.inl.inj heq]; exact List.mem_cons_self⟩
          · obtain ⟨k, hk⟩ := ih h n
            exact ⟨k, List.mem_cons_of_mem _ hk⟩
      | inr i => exact ih ((List.mem_cons.mp h).resolve_left Sum.inl_ne_inr) (n + 1)

theorem inputs_signals (as : List α) :
    (as.map .inl : List (α ⊕ ι)).filterMap Sum.getRight? = [] := by
  rw [List.filterMap_map]
  exact List.filterMap_eq_nil_iff.mpr fun _ _ => rfl

/-- The same signal, placed before or after the iteration that was under way. -/
def Near (x y : α × ℕ) : Prop := y.1 = x.1 ∧ x.2 ≤ y.2 ∧ y.2 ≤ x.2 + 1

theorem near_append {P : α → Prop} [DecidablePred P] {l l' : List (α × ℕ)}
    (h : List.Forall₂ Near (l.filter fun x => P x.1) (l'.filter fun x => P x.1)) {x y : α × ℕ}
    (hxy : Near x y) :
    List.Forall₂ Near ((l ++ [x]).filter fun x => P x.1) ((l' ++ [y]).filter fun x => P x.1) := by
  have hy := hxy.1
  rw [List.filter_append, List.filter_append]
  by_cases hx : P x.1
  · rw [List.filter_cons_of_pos (by simpa using hx),
      List.filter_cons_of_pos (by simpa [hy] using hx)]
    exact List.rel_append h (.cons hxy .nil)
  · rw [List.filter_cons_of_neg (by simpa using hx),
      List.filter_cons_of_neg (by simpa [hy] using hx)]
    simpa using h

/-- A loop under way: the statements executed in this iteration, the latest first, what it has
read, what each complete iteration read, and each signal with the number of iterations complete
when it came. -/
structure Watched (ι σ π α : Type*) where
  state : σ
  position : π
  executed : List π
  reading : ι
  readings : List ι
  arrivals : List (α × ℕ)

namespace Watched

def signal (step : σ → α → σ) (w : Watched ι σ π α) (a : α) : Watched ι σ π α :=
  { w with
    state := step w.state a
    arrivals := w.arrivals ++ [(a, w.readings.length)] }

@[simp] theorem signal_readings (step : σ → α → σ) (w : Watched ι σ π α) (a : α) :
    (w.signal step a).readings = w.readings := rfl

@[simp] theorem signal_arrivals (step : σ → α → σ) (w : Watched ι σ π α) (a : α) :
    (w.signal step a).arrivals = w.arrivals ++ [(a, w.readings.length)] := rfl

def stmt [DecidableEq π] (L : Loop ι σ π) (w : Watched ι σ π α) (i : ι) : Watched ι σ π α :=
  if w.position = L.last then
    { w with
      state := (L.stmt i w.state w.position).1
      position := (L.stmt i w.state w.position).2
      executed := []
      readings := w.readings ++ [w.reading] }
  else
    { w with
      state := (L.stmt i w.state w.position).1
      position := (L.stmt i w.state w.position).2
      executed := w.position :: w.executed
      reading := L.collect w.position i w.reading }

end Watched

/-- The signals that may move, in the states that satisfy `Inv`: those that are `Early` commute
with the statements executed so far, those that are `Late` with the statements to come. -/
structure Movers (L : Loop ι σ π) (signal : σ → α → σ) (source : α → κ) (Inv : σ → Prop) where
  position : π → ℕ
  Early : List π → π → α → Prop
  Late : π → α → Prop
  position_first : position L.first = 0
  position_lt : ∀ i t p, p ≠ L.last → position p < position (L.stmt i t p).2
  last_stmt : ∀ i t, L.stmt i t L.last = (t, L.first)
  collect_self : ∀ i j t p, L.stmt (L.collect p j i) t p = L.stmt j t p
  collect_of_ne : ∀ i j t p q, q ≠ p → L.stmt (L.collect p j i) t q = L.stmt i t q
  inv_stmt : ∀ i t p, Inv t → Inv (L.stmt i t p).1
  inv_signal : ∀ t a, Inv t → Inv (signal t a)
  early_stmt : ∀ ps p a, Early ps p a → ∀ q ∈ ps, ∀ i t, Inv t → (L.stmt i t q).2 ∈ p :: ps →
    L.stmt i (signal t a) q = (signal (L.stmt i t q).1 a, (L.stmt i t q).2)
  early_signal : ∀ ps p a b, Early ps p a → Late p b → ∀ t, Inv t →
    signal (signal t a) b = signal (signal t b) a
  early_source : ∀ ps p a b, Early ps p a → Late p b → source b ≠ source a
  late_stmt : ∀ p a, Late p a → p ≠ L.last → ∀ i t, Inv t →
    L.stmt i (signal t a) p = (signal (L.stmt i t p).1 a, (L.stmt i t p).2)
  late_next : ∀ p a, Late p a → p ≠ L.last → ∀ i t, Late (L.stmt i t p).2 a
  late_first : ∀ a, ¬ Late L.first a

namespace Movers

variable {L : Loop ι σ π} {signal : σ → α → σ} {source : α → κ} {Inv : σ → Prop}
  [DecidableEq κ] (M : Movers L signal source Inv) (body : ι → σ → σ) (s : σ)

/-- The loop under way is as after the complete steps `cs`: its iteration has led to `m`, and
signals `after` wait for its end. -/
structure Serialized (w : Watched ι σ π α) (cs : List (α ⊕ ι)) (after : List α) (m : σ) :
    Prop where
  underway : L.Partial w.reading (run (serial signal body) s cs) w.executed w.position m
  state_eq : w.state = run signal m after
  inv : Inv (run (serial signal body) s cs)
  late : ∀ b ∈ after, M.Late w.position b
  order : ∀ k, List.Forall₂ Near (w.arrivals.filter fun x => source x.1 = k)
    ((placed 0 cs ++ after.map fun b => (b, w.readings.length + 1)).filter
      fun x => source x.1 = k)
  readings_eq : cs.filterMap Sum.getRight? = w.readings

variable {M body s} {w : Watched ι σ π α} {cs : List (α ⊕ ι)} {after : List α} {m : σ}

theorem serialized_start (hs : Inv s) (i : ι) :
    M.Serialized body s ⟨s, L.first, [], i, [], []⟩ [] [] s where
  underway := .start
  state_eq := rfl
  inv := hs
  late _ hb := absurd hb List.not_mem_nil
  order _ := .nil
  readings_eq := rfl

theorem Serialized.inv_underway (h : M.Serialized body s w cs after m) : Inv m :=
  h.underway.invariant (M.inv_stmt w.reading) h.inv

/-- An early signal comes before the iteration. -/
theorem Serialized.early (h : M.Serialized body s w cs after m) {a : α}
    (ha : M.Early w.executed w.position a) :
    M.Serialized body s (w.signal signal a) (cs ++ [.inl a]) after (signal m a) where
  underway := by
    rw [run_append]
    exact h.underway.map (M.inv_stmt w.reading) h.inv fun q hq t ht hmem =>
      M.early_stmt _ _ a ha q hq w.reading t ht hmem
  state_eq := by
    have hcomm := run_commute M.inv_signal (f := fun t => signal t a)
      (fun b hb => M.early_signal _ _ a b ha (h.late b hb)) h.inv_underway
    rw [hcomm, ← h.state_eq]
    rfl
  inv := by
    rw [run_append]
    exact M.inv_signal _ a h.inv
  late := h.late
  order k := by
    have hk := h.order k
    have hplaced : placed 0 (cs ++ [.inl a]) = placed 0 cs ++ [(a, w.readings.length)] := by
      rw [placed_append, h.readings_eq, Nat.zero_add]
      rfl
    rw [hplaced, Watched.signal_arrivals, Watched.signal_readings]
    by_cases hak : source a = k
    · -- no signal of this source waits
      have hnone : (after.map fun b => (b, w.readings.length + 1)).filter
          (fun x => source x.1 = k) = [] := by
        rw [List.filter_eq_nil_iff]
        intro x hx
        obtain ⟨b, hb, rfl⟩ := List.mem_map.mp hx
        simpa [← hak] using M.early_source _ _ a b ha (h.late b hb)
      rw [List.filter_append, hnone, List.append_nil] at hk
      rw [List.filter_append (placed 0 cs ++ _), hnone, List.append_nil]
      exact near_append (P := fun b => source b = k) hk ⟨rfl, Nat.le_refl _, Nat.le_succ _⟩
    · simpa [hak] using hk
  readings_eq := by
    rw [List.filterMap_append, h.readings_eq]
    exact List.append_nil _

/-- A late signal joins those that wait. -/
theorem Serialized.wait (h : M.Serialized body s w cs after m) {a : α}
    (ha : M.Late w.position a) :
    M.Serialized body s (w.signal signal a) cs (after ++ [a]) m where
  underway := h.underway
  state_eq := by
    rw [run_append, ← h.state_eq]
    rfl
  inv := h.inv
  late b hb := by
    rcases List.mem_append.mp hb with hb | hb
    · exact h.late b hb
    · rw [List.mem_singleton.mp hb]
      exact ha
  order k := by
    rw [Watched.signal_arrivals, Watched.signal_readings, List.map_append, ← List.append_assoc]
    exact near_append (P := fun b => source b = k) (h.order k)
      ⟨rfl, Nat.le_succ _, Nat.le_refl _⟩
  readings_eq := h.readings_eq

/-- A statement passes the signals that wait. -/
theorem Serialized.stmt [DecidableEq π] (h : M.Serialized body s w cs after m) (i : ι)
    (hp : w.position ≠ L.last) :
    M.Serialized body s (w.stmt L i) cs after (L.stmt i m w.position).1 := by
  have hpass : L.stmt i w.state w.position =
      (run signal (L.stmt i m w.position).1 after, (L.stmt i m w.position).2) := by
    rw [h.state_eq]
    have hlate := h.late
    have hm := h.inv_underway
    clear h
    induction after generalizing m with
    | nil => rfl
    | cons b after ih =>
        have hb := M.late_stmt w.position b (hlate b List.mem_cons_self) hp i m hm
        have hrest := ih (m := signal m b) (fun c hc => hlate c (List.mem_cons_of_mem b hc))
          (M.inv_signal m b hm)
        rw [run_cons, hrest, hb, run_cons]
  rw [Watched.stmt, if_neg hp, hpass]
  refine ⟨?_, rfl, h.inv, ?_, h.order, h.readings_eq⟩
  · -- what is read here, the earlier statements do not read
    have hread : L.Partial (L.collect w.position i w.reading) (run (serial signal body) s cs)
        w.executed w.position m := by
      apply h.underway.congr_input
      intro q hq t
      have hlt := h.underway.position_lt M.position (M.position_lt w.reading) q hq
      have hne : q ≠ w.position := fun heq => Nat.lt_irrefl _ (heq ▸ hlt)
      exact (M.collect_of_ne w.reading i t w.position q hne).symm
    have hstmt := Loop.Partial.stmt hread hp
    rw [M.collect_self] at hstmt
    exact hstmt
  · exact fun b hb => M.late_next w.position b (h.late b hb) hp i m

/-- At the end of an iteration it becomes a complete step, and the signals that waited come
after it. -/
theorem Serialized.last [DecidableEq π] (h : M.Serialized body s w cs after m) (i : ι)
    (hbody : ∀ i s, L.Completes i L.first s (body i s)) (hp : w.position = L.last) :
    M.Serialized body s (w.stmt L i) (cs ++ .inr w.reading :: after.map .inl) [] w.state := by
  have hm : m = body w.reading (run (serial signal body) s cs) := by
    have hu := h.underway
    rw [hp] at hu
    exact hu.eq_of_last (hbody w.reading _)
  have hrun : run (serial signal body) s (cs ++ .inr w.reading :: after.map .inl) = w.state := by
    rw [run_append, run_cons, h.state_eq, hm]
    exact List.foldl_map
  rw [Watched.stmt, if_pos hp, hp, M.last_stmt]
  refine ⟨?_, rfl, ?_, fun b hb => absurd hb List.not_mem_nil, ?_, ?_⟩
  · rw [hrun]
    exact .start
  · rw [hrun, h.state_eq]
    exact run_invariant signal Inv M.inv_signal h.inv_underway after
  · intro k
    have hk := h.order k
    rw [placed_append, h.readings_eq, placed, placed_signals, Nat.zero_add, List.map_nil,
      List.append_nil]
    exact hk
  · rw [List.filterMap_append, h.readings_eq]
    exact congrArg (fun is => w.readings ++ w.reading :: is) (inputs_signals after)

/-- Between two iterations there are only complete steps. -/
theorem Serialized.complete (h : M.Serialized body s w cs after m)
    (hp : w.position = L.first) :
    run (serial signal body) s cs = w.state ∧
      (∀ k, List.Forall₂ Near (w.arrivals.filter fun x => source x.1 = k)
        ((placed 0 cs).filter fun x => source x.1 = k)) ∧
      cs.filterMap Sum.getRight? = w.readings := by
  have hafter : after = [] := by
    apply List.eq_nil_iff_forall_not_mem.mpr
    intro b hb
    exact M.late_first b (hp ▸ h.late b hb)
  have hexecuted : w.executed = [] := by
    apply List.eq_nil_iff_forall_not_mem.mpr
    intro q hq
    have hlt := h.underway.position_lt M.position (M.position_lt w.reading) q hq
    rw [hp, M.position_first] at hlt
    exact Nat.not_lt_zero _ hlt
  have hm : m = run (serial signal body) s cs := by
    have hu := h.underway
    rw [hexecuted] at hu
    exact hu.eq_start
  refine ⟨?_, ?_, h.readings_eq⟩
  · rw [h.state_eq, hafter, hm]
    rfl
  · intro k
    have hk := h.order k
    rw [hafter, List.map_nil, List.append_nil] at hk
    exact hk

end Movers

end MatterSwitch.Transition
