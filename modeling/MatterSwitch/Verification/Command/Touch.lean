import MatterSwitch.Verification.Command.Equations

/-! # Touching the slider -/

namespace MatterSwitch

open SliderDriver Transition

namespace SliderDriver

/-! ## The touched electrode -/

def BitSet (byte : UInt8) (i : ℕ) : Prop := (byte >>> i.toUInt8) &&& 1 ≠ 0

instance (byte : UInt8) (i : ℕ) : Decidable (BitSet byte i) :=
  inferInstanceAs (Decidable (_ ≠ _))

/-- The electrode with the lowest index among those of a mask. -/
structure LowestBit (mask : UInt8) (i : ℕ) : Prop where
  lt : i < 8
  set : BitSet mask i
  below : ∀ j < i, ¬ BitSet mask j

theorem toNat_toUInt8_of_lt {i : ℕ} (hi : i < 8) : i.toUInt8.toNat = i := by
  simp only [Nat.toUInt8, UInt8.toNat_ofNat']
  omega

theorem toNat_bit (byte : UInt8) {i : ℕ} (hi : i < 8) :
    ((byte >>> i.toUInt8) &&& 1).toNat = if byte.toNat.testBit i then 1 else 0 := by
  rw [UInt8.toNat_and, UInt8.toNat_shiftRight, toNat_toUInt8_of_lt hi]
  change (byte.toNat >>> (i % 8)) &&& 1 = _
  rw [Nat.mod_eq_of_lt hi, Nat.and_one_is_mod, Nat.testBit_eq_decide_div_mod_eq, Nat.shiftRight_eq_div_pow]
  by_cases h : byte.toNat / 2 ^ i % 2 = 1
  · simp [h]
  · have h0 : byte.toNat / 2 ^ i % 2 = 0 := by omega
    simp [h0]

/-- A bit of a byte, as a bit of its number. -/
theorem bitSet_iff_testBit (byte : UInt8) {i : ℕ} (hi : i < 8) :
    BitSet byte i ↔ byte.toNat.testBit i = true := by
  have h := toNat_bit byte hi
  rw [BitSet, ne_eq, ← UInt8.toNat_inj, h]
  cases byte.toNat.testBit i <;> simp

/-- Every mask with a touch has a lowest electrode. -/
theorem exists_lowestBit {mask : UInt8} (h : mask ≠ 0) : ∃ i, LowestBit mask i := by
  have hne : mask.toNat ≠ 0 := fun h0 => h (UInt8.toNat_inj.mp h0)
  obtain ⟨k, hk⟩ := Nat.exists_testBit_of_ne_zero hne
  have hk8 : k < 8 := by
    by_contra hge
    have hpow : mask.toNat < 2 ^ k :=
      mask.toNat_lt.trans_le (Nat.pow_le_pow_right (by decide) (by omega))
    rw [Nat.testBit_lt_two_pow hpow] at hk
    exact Bool.noConfusion hk
  have hex : ∃ i, BitSet mask i := ⟨k, (bitSet_iff_testBit mask hk8).mpr hk⟩
  refine ⟨Nat.find hex, ?_, Nat.find_spec hex, fun j hj => Nat.find_min hex hj⟩
  exact (Nat.find_min' hex ((bitSet_iff_testBit mask hk8).mpr hk)).trans_lt hk8

theorem LowestBit.ne_zero {mask : UInt8} {i : ℕ} (h : LowestBit mask i) : mask ≠ 0 := by
  rintro rfl
  have hset := h.set
  simp [BitSet] at hset

theorem LowestBit.unique {mask : UInt8} {i j : ℕ} (hi : LowestBit mask i)
    (hj : LowestBit mask j) : i = j := by
  rcases Nat.lt_trichotomy i j with h | h | h
  · exact absurd hi.set (hj.below i h)
  · exact h
  · exact absurd hj.set (hi.below j h)

/-- The scan finds the highest set bit. -/
theorem highestBit_eq (byte : UInt8) {n k : ℕ} (hk : k < n) (hset : BitSet byte k)
    (habove : ∀ j, k < j → j < n → ¬ BitSet byte j) : highestBit byte n = k.toUInt8 := by
  induction n with
  | zero => omega
  | succ n ih =>
      by_cases hkn : k = n
      · subst hkn
        exact if_pos hset
      · have hn : ¬ BitSet byte n := habove n (by omega) (by omega)
        have hrec : highestBit byte (n + 1) = highestBit byte n := if_neg hn
        rw [hrec]
        exact ih (by omega) fun j hj hjn => habove j hj (by omega)

/-- One step of the reversal sets one bit, that of the electrode at the other end. -/
theorem testBit_flipStep (level : UInt8) {n j : ℕ} (hn : n < 8) (hj : j < 8) :
    (((level >>> n.toUInt8) &&& 1) <<< (7 - n).toUInt8).toNat.testBit j = true ↔
      j = 7 - n ∧ level.toNat.testBit n = true := by
  have hshift : ((7 - n).toUInt8).toNat % 8 = 7 - n := by
    rw [toNat_toUInt8_of_lt (by omega)]
    omega
  rw [UInt8.toNat_shiftLeft, hshift, toNat_bit level hn, Nat.testBit_mod_two_pow,
    decide_eq_true hj, Bool.true_and, Nat.testBit_shiftLeft]
  cases level.toNat.testBit n with
  | false => simp
  | true =>
      simp only [if_true, Bool.and_eq_true, decide_eq_true_eq,
        Nat.testBit_one_eq_true_iff_self_eq_zero, and_true]
      omega

/-- The bits set by the first `n` steps of the reversal. -/
theorem testBit_flip (level : UInt8) {n j : ℕ} (hn : n ≤ 8) (hj : j < 8) :
    ((List.range n).foldl (fun flipped i =>
      flipped ||| (((level >>> i.toUInt8) &&& 1) <<< (7 - i).toUInt8)) 0).toNat.testBit j = true ↔
      7 - j < n ∧ level.toNat.testBit (7 - j) = true := by
  induction n with
  | zero => simp
  | succ n ih =>
      rw [List.range_succ, List.foldl_append, List.foldl_cons, List.foldl_nil, UInt8.toNat_or,
        Nat.testBit_or, Bool.or_eq_true, ih (by omega), testBit_flipStep level (by omega) hj]
      by_cases he : j = 7 - n
      · have hjn : 7 - j = n := by omega
        rw [hjn]
        simp [he]
      · have hne : 7 - j ≠ n := by omega
        have hlt : 7 - j < n + 1 ↔ 7 - j < n := by omega
        simp [he, hlt]

theorem bitSet_flippedByte (mask : UInt8) {i : ℕ} (hi : i < 8) :
    BitSet (flippedByte mask) i ↔ BitSet mask (7 - i) := by
  rw [bitSet_iff_testBit _ hi, bitSet_iff_testBit mask (by omega), flippedByte,
    testBit_flip mask le_rfl hi]
  have hlt : 7 - i < 8 := by omega
  simp [hlt]

/-- The scan of the reversed mask counts the lowest electrode from the other end. -/
theorem highestBit_flippedByte {mask : UInt8} {i : ℕ} (h : LowestBit mask i) :
    highestBit (flippedByte mask) 8 = (7 - i).toUInt8 := by
  have hi := h.lt
  apply highestBit_eq
  · omega
  · rw [bitSet_flippedByte mask (by omega)]
    have he : 7 - (7 - i) = i := by omega
    rw [he]
    exact h.set
  · intro j hj hj8
    rw [bitSet_flippedByte mask hj8]
    exact h.below (7 - j) (by omega)

end SliderDriver

namespace Device

theorem touchValue_of_lowestBit (previous : UInt8) {mask : UInt8} {i : ℕ}
    (h : LowestBit mask i) :
    (touchValue previous mask).toNat = 254 * (7 - i) / 7 := by
  have hi := h.lt
  rw [touchValue, if_neg h.ne_zero, highestBit_flippedByte h, scaleTouch]
  have hv : ((7 - i).toUInt8).toNat = 7 - i := by
    simp only [Nat.toUInt8, UInt8.toNat_ofNat']
    omega
  rw [hv]
  change (UInt8.ofNat (254 * (7 - i) / 7)).toNat = _
  simp only [UInt8.toNat_ofNat']
  omega

/-! ## The writes of an iteration -/

theorem touchBlock_writes_of_relevels (cfg : Kconfig) {inp : TaskInput} {d : Device}
    (h : Relevels inp d) :
    d.matter.writes.length < (d.touchBlock cfg inp).matter.writes.length := by
  rw [touchBlock_of_relevels cfg h]
  cases d.oldState with
  | true => simp [attributeUpdate_currentLevel, sampled]
  | false =>
      simp only [attributeUpdate_currentLevel, attributeUpdate_onOff, sampled,
        Bool.false_eq_true, if_false, List.length_cons]
      omega

theorem touchBlock_writes_of_not_relevels (cfg : Kconfig) {inp : TaskInput} {d : Device}
    (h : ¬ Relevels inp d) : (d.touchBlock cfg inp).matter.writes = d.matter.writes := by
  by_cases ha : TouchAccepted inp d
  · rw [touchBlock_of_same cfg ha h]
    rfl
  · rw [touchBlock_of_not_accepted cfg ha]

/-! ## Touching -/

/-- Along complete steps `old_level` stays the `CurrentLevel` attribute. -/
theorem remembered_command (cfg : Kconfig) {d : Device} (h : d.light.Remembered) (c : Command) :
    (d.command cfg c).light.Remembered := by
  cases c with
  | signal e =>
      exact (refinement cfg).step_invariant Light.Remembered
        (fun _ _ hl ho => Light.remembered_step cfg hl ho) h
        (write_signalEvents e)
  | sliderTask inp =>
      rw [command, light_sliderTask]
      by_cases hr : Relevels inp (d.pressBlock cfg)
      · rw [light_touchBlock_of_relevels cfg hr]
        cases (d.pressBlock cfg).oldState <;> rfl
      · rw [light_touchBlock_of_not_relevels cfg hr, light_pressBlock]
        exact Light.remembered_run cfg h (write_pressEvents d)

theorem remembered_appDriverSetDefault (cfg : Kconfig) (d : Device) :
    (d.appDriverSetDefault cfg 1).1.light.Remembered := by
  rw [light_appDriverSetDefault]
  rfl

/-- The light is on at a level, and the task knows it. -/
structure LitAt (level : ℕ) (d : Device) : Prop where
  currentLevel : d.currentLevel.toNat = level
  oldLevel : d.oldLevel.toNat = level
  onOff : d.onOff = true
  mIsOn : d.slider.mIsOn = true
  oldState : d.oldState = true

theorem litAt_ledBlock (level : ℕ) (d : Device) : LitAt level d.ledBlock ↔ LitAt level d := by
  constructor
  · intro h
    exact ⟨h.currentLevel, h.oldLevel, h.onOff, h.mIsOn, h.oldState⟩
  · intro h
    exact ⟨h.currentLevel, h.oldLevel, h.onOff, h.mIsOn, h.oldState⟩

/-- A touch of another level lights a light that `old_state` calls off, and leaves the
power alone otherwise. -/
theorem litAt_touchBlock_of_relevels (cfg : Kconfig) {inp : TaskInput} {d : Device}
    (hp : d.light.Powered) (hr : Relevels inp d) {i : ℕ} (hi : LowestBit inp.touches i) :
    LitAt (254 * (7 - i) / 7) (d.touchBlock cfg inp) ↔
      d.slider.mIsOn = true ∨ d.oldState = false := by
  have hv := touchValue_of_lowestBit d.slider.mPreviousLevel hi
  have hon : d.onOff = d.slider.mIsOn := hp.isOn_eq.symm
  have hm := touchBlock_mIsOn cfg inp d
  have ho := touchBlock_onOff cfg inp d
  constructor
  · intro hlit
    have hlit' := hlit.mIsOn
    rw [hm] at hlit'
    cases hs : d.oldState with
    | true =>
        rw [hs, if_neg (by simp)] at hlit'
        exact .inl hlit'
    | false => exact .inr rfl
  · intro h
    have hpower : (if Relevels inp d ∧ d.oldState = false then true else d.slider.mIsOn) =
        true := by
      rcases h with h | h
      · rw [h, ite_self]
      · rw [if_pos ⟨hr, h⟩]
    refine ⟨?_, ?_, ?_, ?_, ?_⟩
    · rw [touchBlock_currentLevel, if_pos hr, hv]
    · rw [touchBlock_oldLevel, if_pos hr, UInt8.toNat_toUInt16, hv]
    · rw [ho, hon, hpower]
    · rw [hm, hpower]
    · rw [touchBlock_oldState, if_pos hr]

/-- A touch of the stored level changes nothing. -/
theorem litAt_touchBlock_of_not_relevels (cfg : Kconfig) {inp : TaskInput} {d : Device}
    (hp : d.light.Powered) (hrem : d.light.Remembered) (hr : ¬ Relevels inp d) {level : ℕ}
    (hl : d.oldLevel.toNat = level) :
    LitAt level (d.touchBlock cfg inp) ↔ d.slider.mIsOn = true ∧ d.oldState = true := by
  have hon : d.onOff = d.slider.mIsOn := hp.isOn_eq.symm
  have hcl : d.currentLevel.toNat = level := by
    have hold : d.oldLevel = d.currentLevel.toUInt16 := hrem
    rw [← hl, hold, UInt8.toNat_toUInt16]
  have hm := touchBlock_mIsOn cfg inp d
  have ho := touchBlock_onOff cfg inp d
  have hs := touchBlock_oldState cfg inp d
  rw [if_neg fun h => hr h.1] at hm ho
  rw [if_neg hr] at hs
  constructor
  · intro hlit
    exact ⟨hm ▸ hlit.mIsOn, hs ▸ hlit.oldState⟩
  · intro h
    refine ⟨?_, ?_, ?_, ?_, ?_⟩
    · rw [touchBlock_currentLevel, if_neg hr, hcl]
    · rw [touchBlock_oldLevel, if_neg hr, hl]
    · rw [ho, hon, h.1]
    · rw [hm, h.1]
    · rw [hs, h.2]

theorem litAt_touchBlock_iff (cfg : Kconfig) {inp : TaskInput} {d : Device}
    (hp : d.light.Powered) (hrem : d.light.Remembered) (ha : TouchAccepted inp d)
    {i : ℕ} (hi : LowestBit inp.touches i) :
    LitAt (254 * (7 - i) / 7) (d.touchBlock cfg inp) ↔
      d.slider.mIsOn = true ∧ d.oldState = true ∨
        d.oldState = false ∧ d.oldLevel.toNat ≠ 254 * (7 - i) / 7 := by
  have hv := touchValue_of_lowestBit d.slider.mPreviousLevel hi
  have hlevel : Relevels inp d ↔ d.oldLevel.toNat ≠ 254 * (7 - i) / 7 := by
    rw [Relevels, ← hv, ← UInt8.toNat_toUInt16, ne_comm, ne_eq, ne_eq, UInt16.toNat_inj]
    simp only [ha, true_and]
  by_cases hr : Relevels inp d
  · rw [litAt_touchBlock_of_relevels cfg hp hr hi]
    have hne := hlevel.mp hr
    cases d.oldState <;> simp [hne]
  · have he : d.oldLevel.toNat = 254 * (7 - i) / 7 := not_not.mp fun h => hr (hlevel.mpr h)
    rw [litAt_touchBlock_of_not_relevels cfg hp hrem hr he]
    simp [he]

/-- What one step has to do: an iteration without a press that accepts a touch ends with
the light on at the level of the lowest electrode. -/
def TouchLights (cfg : Kconfig) (d : Device) (c : Command) : Prop :=
  ∀ inp, c = .sliderTask inp → d.isPressed = false → TouchAccepted inp d → inp.touches ≠ 0 →
    ∃ i, LowestBit inp.touches i ∧ LitAt (254 * (7 - i) / 7) (d.sliderTask cfg inp)

/-- The touch finds the light and `old_state` on, or `old_state` off and another level. -/
def TouchNoticed (d : Device) : Command → Prop
  | .signal _ => True
  | .sliderTask inp =>
      d.isPressed = false → TouchAccepted inp d → ∀ i, LowestBit inp.touches i →
        d.slider.mIsOn = true ∧ d.oldState = true ∨
          d.oldState = false ∧ d.oldLevel.toNat ≠ 254 * (7 - i) / 7

theorem touchLights_iff (cfg : Kconfig) {d : Device} (hp : d.light.Powered)
    (hrem : d.light.Remembered) (c : Command) :
    TouchLights cfg d c ↔ TouchNoticed d c := by
  cases c with
  | signal e => simp [TouchLights, TouchNoticed]
  | sliderTask inp =>
      have hlit : d.isPressed = false → TouchAccepted inp d → ∀ i, LowestBit inp.touches i →
          (LitAt (254 * (7 - i) / 7) (d.sliderTask cfg inp) ↔
            d.slider.mIsOn = true ∧ d.oldState = true ∨
              d.oldState = false ∧ d.oldLevel.toNat ≠ 254 * (7 - i) / 7) := by
        intro hpr ha i hi
        rw [← litAt_touchBlock_iff cfg hp hrem ha hi]
        rw [sliderTask, litAt_ledBlock, pressBlock_of_not_pressed cfg hpr]
      constructor
      · intro h hpr ha i hi
        obtain ⟨j, hj, hl⟩ := h inp rfl hpr ha hi.ne_zero
        rw [hj.unique hi] at hl
        exact (hlit hpr ha i hi).mp hl
      · intro h inp' he hpr ha hne
        obtain rfl := Command.sliderTask.inj he
        obtain ⟨i, hi⟩ := exists_lowestBit hne
        exact ⟨i, hi, (hlit hpr ha i hi).mpr (h hpr ha i hi)⟩

/-- Along a run after start-up every touch lights the light at its level, exactly when
every touch finds the light and `old_state` on, or `old_state` off and another level. -/
theorem touch_lights_iff (cfg : Kconfig) (d₀ : Device) (cs : List Command) :
    Along (Device.command cfg) (TouchLights cfg) (d₀.appDriverSetDefault cfg 1).1 cs ↔
      Along (Device.command cfg) TouchNoticed (d₀.appDriverSetDefault cfg 1).1 cs := by
  apply along_iff_along (Device.command cfg)
    (fun d => d.light.Powered ∧ d.light.Remembered)
  · intro d c hinv _
    obtain ⟨hp, hrem⟩ := hinv
    exact ⟨powered_command cfg hp c, remembered_command cfg hrem c⟩
  · intro d c hinv
    obtain ⟨hp, hrem⟩ := hinv
    exact touchLights_iff cfg hp hrem c
  · exact ⟨powered_appDriverSetDefault cfg d₀, remembered_appDriverSetDefault cfg d₀⟩

/-- A light switched off remotely stays off under the finger. -/
theorem touch_after_remote_off_stays_dark :
    ¬ Along (Device.command .noFade) (TouchLights .noFade)
      (cold.appDriverSetDefault .noFade 1).1
      [.signal (.matterWrite (onOffPath 1) ⟨1, 0⟩), .sliderTask ⟨true, 100, 1⟩] := by
  intro h
  obtain ⟨i, -, hl⟩ := h.2.1 _ rfl (by decide) (by decide) (by decide)
  exact absurd hl.onOff (by decide)

end Device

end MatterSwitch
