import PcanDriver.Lib.Masks
import PcanDriver.OpenInit

/-!
The registers that hold a bit timing. A register is exact for a timing if the
hardware reads back from its fields the values that were put in.
-/
namespace PcanDriver

def TimingInRange (caps : PcanfdBittimingRange) (bt : PcanBittiming) : Prop :=
  (caps.brpMin ≤ bt.brp ∧ bt.brp ≤ caps.brpMax) ∧
  (caps.tseg1Min ≤ bt.tseg1 ∧ bt.tseg1 ≤ caps.tseg1Max) ∧
  (caps.tseg2Min ≤ bt.tseg2 ∧ bt.tseg2 ≤ caps.tseg2Max) ∧
  (caps.sjwMin ≤ bt.sjw ∧ bt.sjw ≤ caps.sjwMax)

def tripleSampling (bt : PcanBittiming) : Nat := if bt.tsam = 0 then 0 else 1

def Btr0btr1Exact (bt : PcanBittiming) : Prop :=
  let word := (pcanBittimingToBtr0btr1 bt).toNat
  word / 2 ^ 14 + 1 = bt.sjw.toNat ∧ word / 2 ^ 8 % 2 ^ 6 + 1 = bt.brp.toNat ∧
    word / 2 ^ 7 % 2 = tripleSampling bt ∧ word / 2 ^ 4 % 2 ^ 3 + 1 = bt.tseg2.toNat ∧
    word % 2 ^ 4 + 1 = bt.tseg1.toNat

/-- The bits from 23 on are those of `tsam` alone. -/
def CcbtExact (bt : PcanBittiming) : Prop :=
  let word := (usbproCcbt bt).toNat
  word / 2 ^ 23 = bt.tsam.toNat % 2 ^ 9 ∧ word / 2 ^ 20 % 2 ^ 3 + 1 = bt.tseg2.toNat ∧
    word / 2 ^ 16 % 2 ^ 4 + 1 = bt.tseg1.toNat ∧ word / 2 ^ 14 % 2 ^ 2 + 1 = bt.sjw.toNat ∧
    word % 2 ^ 14 + 1 = bt.brp.toNat

def TimingSlowExact (bt : PcanBittiming) : Prop :=
  let cmd := ucanAddCmdTimingSlow bt
  cmd.sjwT.toNat % 2 ^ 7 + 1 = bt.sjw.toNat ∧ cmd.sjwT.toNat / 2 ^ 7 = tripleSampling bt ∧
    cmd.tseg2.toNat + 1 = bt.tseg2.toNat ∧ cmd.tseg1.toNat + 1 = bt.tseg1.toNat ∧
    cmd.brp.toNat + 1 = bt.brp.toNat

def TimingFastExact (bt : PcanBittiming) : Prop :=
  let cmd := ucanAddCmdTimingFast bt
  cmd.sjw.toNat + 1 = bt.sjw.toNat ∧ cmd.tseg2.toNat + 1 = bt.tseg2.toNat ∧
    cmd.tseg1.toNat + 1 = bt.tseg1.toNat ∧ cmd.brp.toNat + 1 = bt.brp.toNat

section Fields
variable {bt : PcanBittiming}

theorem setWidth_toNat_of_lt {x : U32} {bits : Nat} (fits : x.toNat < 2 ^ bits) :
    (x.setWidth bits).toNat = x.toNat := by
  rw [BitVec.toNat_setWidth, Nat.mod_eq_of_lt fits]

theorem sampling_toNat (bt : PcanBittiming) :
    (if bt.tsam ≠ 0 then 1 else 0 : U32).toNat = tripleSampling bt ∧ tripleSampling bt ≤ 1 := by
  unfold tripleSampling
  by_cases once : bt.tsam = 0
  · rw [if_neg (not_not.mpr once), if_pos once]
    exact ⟨rfl, Nat.zero_le 1⟩
  · rw [if_pos once, if_neg once]
    exact ⟨rfl, Nat.le_refl 1⟩

theorem sub_one_toNat {x : U32} (low : 1 ≤ x.toNat) : (x - 1).toNat = x.toNat - 1 :=
  BitVec.toNat_sub_of_le (BitVec.le_def.mpr low)

theorem btr0btr1_toNat (brp : 1 ≤ bt.brp.toNat ∧ bt.brp.toNat ≤ 64)
    (tseg1 : 1 ≤ bt.tseg1.toNat ∧ bt.tseg1.toNat ≤ 16)
    (tseg2 : 1 ≤ bt.tseg2.toNat ∧ bt.tseg2.toNat ≤ 8)
    (sjw : 1 ≤ bt.sjw.toNat ∧ bt.sjw.toNat ≤ 4) :
    (pcanBittimingToBtr0btr1 bt).toNat =
      (bt.sjw.toNat - 1) * 2 ^ 14 + (bt.brp.toNat - 1) * 2 ^ 8 + tripleSampling bt * 2 ^ 7 +
        (bt.tseg2.toNat - 1) * 2 ^ 4 + (bt.tseg1.toNat - 1) := by
  obtain ⟨sampling, bit⟩ := sampling_toNat bt
  have sjwField := Masks.toNat_sub_one_and (show (0x3 : U32).toNat = 2 ^ 2 - 1 from rfl) sjw.1 sjw.2
  have brpField := Masks.toNat_sub_one_and (show (0x3f : U32).toNat = 2 ^ 6 - 1 from rfl) brp.1 brp.2
  have tseg2Field :=
    Masks.toNat_sub_one_and (show (0x7 : U32).toNat = 2 ^ 3 - 1 from rfl) tseg2.1 tseg2.2
  have tseg1Field :=
    Masks.toNat_sub_one_and (show (0xf : U32).toNat = 2 ^ 4 - 1 from rfl) tseg1.1 tseg1.2
  unfold pcanBittimingToBtr0btr1
  generalize ((bt.sjw - 1) &&& 0x3) = a at *
  generalize ((bt.brp - 1) &&& 0x3f) = b at *
  generalize (if bt.tsam ≠ 0 then 1 else 0 : U32) = c at *
  generalize ((bt.tseg2 - 1) &&& 0x7) = d at *
  generalize ((bt.tseg1 - 1) &&& 0xf) = e at *
  have word : (a <<< 14 ||| b <<< 8 ||| c <<< 7 ||| d <<< 4 ||| e).toNat =
      a.toNat * 2 ^ 14 + b.toNat * 2 ^ 8 + c.toNat * 2 ^ 7 + d.toNat * 2 ^ 4 + e.toNat := by
    rw [BitVec.toNat_or, BitVec.toNat_or, BitVec.toNat_or, BitVec.toNat_or,
      Masks.toNat_shiftLeft_of_lt (x := a) (by omega), Masks.toNat_shiftLeft_of_lt (x := b) (by omega),
      Masks.toNat_shiftLeft_of_lt (x := c) (by omega), Masks.toNat_shiftLeft_of_lt (x := d) (by omega),
      Masks.or_eq_add (a := a.toNat * 2 ^ 14) (k := 14) (by omega) (by omega),
      Masks.or_eq_add (b := c.toNat * 2 ^ 7) (k := 8) (by omega) (by omega),
      Masks.or_eq_add (b := d.toNat * 2 ^ 4) (k := 7) (by omega) (by omega),
      Masks.or_eq_add (b := e.toNat) (k := 4) (by omega) (by omega)]
  rw [setWidth_toNat_of_lt (by omega), word, sjwField, brpField, sampling, tseg2Field, tseg1Field]

theorem btr0btr1_exact (brp : 1 ≤ bt.brp.toNat ∧ bt.brp.toNat ≤ 64)
    (tseg1 : 1 ≤ bt.tseg1.toNat ∧ bt.tseg1.toNat ≤ 16)
    (tseg2 : 1 ≤ bt.tseg2.toNat ∧ bt.tseg2.toNat ≤ 8)
    (sjw : 1 ≤ bt.sjw.toNat ∧ bt.sjw.toNat ≤ 4) : Btr0btr1Exact bt := by
  have bit := (sampling_toNat bt).2
  simp only [Btr0btr1Exact, btr0btr1_toNat brp tseg1 tseg2 sjw]
  omega

theorem Btr0btr1Exact.bounds (exact_ : Btr0btr1Exact bt) : bt.brp.toNat ≤ 64 ∧
    bt.tseg1.toNat ≤ 16 ∧ bt.tseg2.toNat ≤ 8 ∧ bt.sjw.toNat ≤ 4 := by
  have size := (pcanBittimingToBtr0btr1 bt).isLt
  simp only [Btr0btr1Exact] at exact_
  omega

theorem ccbt_exact (brp : 1 ≤ bt.brp.toNat ∧ bt.brp.toNat ≤ 1024)
    (tseg1 : 1 ≤ bt.tseg1.toNat ∧ bt.tseg1.toNat ≤ 16)
    (tseg2 : 1 ≤ bt.tseg2.toNat ∧ bt.tseg2.toNat ≤ 8)
    (sjw : 1 ≤ bt.sjw.toNat ∧ bt.sjw.toNat ≤ 4) : CcbtExact bt := by
  have brpField := sub_one_toNat brp.1
  have tseg1Field := sub_one_toNat tseg1.1
  have tseg2Field := sub_one_toNat tseg2.1
  have sjwField := sub_one_toNat sjw.1
  have size := bt.tsam.isLt
  have sampling : (bt.tsam <<< 23).toNat = bt.tsam.toNat % 2 ^ 9 * 2 ^ 23 := by
    rw [BitVec.toNat_shiftLeft, Nat.shiftLeft_eq]
    omega
  unfold CcbtExact usbproCcbt
  generalize bt.tsam <<< 23 = t at *
  generalize bt.tseg2 - 1 = a at *
  generalize bt.tseg1 - 1 = b at *
  generalize bt.sjw - 1 = c at *
  generalize bt.brp - 1 = d at *
  have word : (t ||| a <<< 20 ||| b <<< 16 ||| c <<< 14 ||| d).toNat =
      t.toNat + a.toNat * 2 ^ 20 + b.toNat * 2 ^ 16 + c.toNat * 2 ^ 14 + d.toNat := by
    rw [BitVec.toNat_or, BitVec.toNat_or, BitVec.toNat_or, BitVec.toNat_or,
      Masks.toNat_shiftLeft_of_lt (x := a) (by omega), Masks.toNat_shiftLeft_of_lt (x := b) (by omega),
      Masks.toNat_shiftLeft_of_lt (x := c) (by omega),
      Masks.or_eq_add (a := t.toNat) (k := 23) (by omega) (by omega),
      Masks.or_eq_add (b := b.toNat * 2 ^ 16) (k := 20) (by omega) (by omega),
      Masks.or_eq_add (b := c.toNat * 2 ^ 14) (k := 16) (by omega) (by omega),
      Masks.or_eq_add (b := d.toNat) (k := 14) (by omega) (by omega)]
  simp only [word]
  omega

theorem timingSlow_exact (brp : 1 ≤ bt.brp.toNat ∧ bt.brp.toNat ≤ 1024)
    (tseg1 : 1 ≤ bt.tseg1.toNat ∧ bt.tseg1.toNat ≤ 256)
    (tseg2 : 1 ≤ bt.tseg2.toNat ∧ bt.tseg2.toNat ≤ 128)
    (sjw : 1 ≤ bt.sjw.toNat ∧ bt.sjw.toNat ≤ 128) : TimingSlowExact bt := by
  obtain ⟨sampling, bit⟩ := sampling_toNat bt
  have sjwField := Masks.toNat_sub_one_and (show (0x7f : U32).toNat = 2 ^ 7 - 1 from rfl) sjw.1 sjw.2
  have brpField := Masks.toNat_sub_one_and (show (0x3ff : U32).toNat = 2 ^ 10 - 1 from rfl) brp.1 brp.2
  have tseg2Field :=
    Masks.toNat_sub_one_and (show (0x7f : U32).toNat = 2 ^ 7 - 1 from rfl) tseg2.1 tseg2.2
  have tseg1Field :=
    Masks.toNat_sub_one_and (show (0xff : U32).toNat = 2 ^ 8 - 1 from rfl) tseg1.1 tseg1.2
  unfold TimingSlowExact ucanAddCmdTimingSlow
  generalize ((bt.sjw - 1) &&& 0x7f) = a at *
  generalize (if bt.tsam ≠ 0 then 1 else 0 : U32) = c at *
  have word : (c <<< 7 ||| a).toNat = c.toNat * 2 ^ 7 + a.toNat := by
    rw [BitVec.toNat_or, Masks.toNat_shiftLeft_of_lt (x := c) (by omega),
      Masks.or_eq_add (k := 7) (by omega) (by omega)]
  rw [BitVec.or_comm] at word
  simp only []
  rw [setWidth_toNat_of_lt (by omega), setWidth_toNat_of_lt (by omega), setWidth_toNat_of_lt (by omega),
    setWidth_toNat_of_lt (by omega), word]
  omega

theorem timingFast_exact (brp : 1 ≤ bt.brp.toNat ∧ bt.brp.toNat ≤ 1024)
    (tseg1 : 1 ≤ bt.tseg1.toNat ∧ bt.tseg1.toNat ≤ 32)
    (tseg2 : 1 ≤ bt.tseg2.toNat ∧ bt.tseg2.toNat ≤ 16)
    (sjw : 1 ≤ bt.sjw.toNat ∧ bt.sjw.toNat ≤ 16) : TimingFastExact bt := by
  have sjwField := Masks.toNat_sub_one_and (show (0xf : U32).toNat = 2 ^ 4 - 1 from rfl) sjw.1 sjw.2
  have brpField := Masks.toNat_sub_one_and (show (0x3ff : U32).toNat = 2 ^ 10 - 1 from rfl) brp.1 brp.2
  have tseg2Field :=
    Masks.toNat_sub_one_and (show (0xf : U32).toNat = 2 ^ 4 - 1 from rfl) tseg2.1 tseg2.2
  have tseg1Field :=
    Masks.toNat_sub_one_and (show (0x1f : U32).toNat = 2 ^ 5 - 1 from rfl) tseg1.1 tseg1.2
  unfold TimingFastExact ucanAddCmdTimingFast
  simp only []
  rw [setWidth_toNat_of_lt (by omega), setWidth_toNat_of_lt (by omega), setWidth_toNat_of_lt (by omega),
    setWidth_toNat_of_lt (by omega)]
  omega

end Fields

end PcanDriver
