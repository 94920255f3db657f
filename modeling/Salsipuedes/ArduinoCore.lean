import Mathlib

/-!
# What the sketches use of the Arduino core

Integer helpers with the C meaning, the `String` operations on received text,
pseudo-random draws, the arithmetic of the one `float` of the machine, and the
interface of the Bounce2 button debouncer.  Bounce2 is not part of the
repository, so a debouncer is any state type with its three operations.
-/

namespace Salsipuedes

/-- The pin level `HIGH`. -/
abbrev high : Bool := true

/-- The pin level `LOW`. -/
abbrev low : Bool := false

/-- A byte of a serial link, as the character with that code. -/
abbrev Text := List Char

/-- The result of assigning a C integer to an `int` of `width` bits. -/
def toInt (width : Nat) (value : Int) : Int :=
  value.bmod (2 ^ width)

/-- Small values survive the assignment to an `int`. -/
theorem toInt_of_small {width : Nat} {value : Int} (nonneg : 0 ≤ value)
    (small : 2 * value < 2 ^ width) : toInt width value = value := by
  have cast : ((2 ^ width : Nat) : Int) = 2 ^ width := by simp
  apply Int.bmod_eq_of_le <;> rw [cast] <;> omega

/-- `map(x, inMin, inMax, outMin, outMax)`, with C division. -/
def map (x inMin inMax outMin outMax : Int) : Int :=
  ((x - inMin) * (outMax - outMin)).tdiv (inMax - inMin) + outMin

/-- `random(howsmall, howbig)`, from one draw of the generator. -/
def random (howsmall howbig : Int) (draw : Nat) : Int :=
  if howsmall ≥ howbig then howsmall
  else (draw : Int) % (howbig - howsmall) + howsmall

theorem random_lower {howsmall howbig : Int} (draw : Nat) :
    howsmall ≤ random howsmall howbig draw := by
  unfold random
  split
  · exact Int.le_refl _
  · have : 0 ≤ (draw : Int) % (howbig - howsmall) :=
      Int.emod_nonneg _ (by omega)
    omega

theorem random_upper {howsmall howbig : Int} (nonempty : howsmall < howbig)
    (draw : Nat) : random howsmall howbig draw < howbig := by
  have below : (draw : Int) % (howbig - howsmall) < howbig - howsmall :=
    Int.emod_lt_of_pos _ (by omega)
  rw [random, if_neg (by omega)]
  omega

/-- `isspace` in the C locale. -/
def isSpace (character : Char) : Bool :=
  character = ' ' || (9 ≤ character.toNat && character.toNat ≤ 13)

/-- `String::trim`. -/
def trim (text : Text) : Text :=
  ((text.dropWhile isSpace).reverse.dropWhile isSpace).reverse

theorem trim_isInfix (text : Text) : trim text <:+: text := by
  have front : text.dropWhile isSpace <:+ text := List.dropWhile_suffix _
  have back : trim text <+: text.dropWhile isSpace := by
    have reversed : (text.dropWhile isSpace).reverse.dropWhile isSpace <:+
        (text.dropWhile isSpace).reverse := List.dropWhile_suffix _
    simpa [trim] using List.reverse_prefix.mpr reversed
  exact back.isInfix.trans front.isInfix

/-- A non-negative C `float`, in units of `2 ^ (-28)`. -/
abbrev ScaledFloat := Nat

namespace ScaledFloat

/-- The `float` of a small integer. -/
def ofNat (value : Nat) : ScaledFloat :=
  value * 2 ^ 28

/-- Round to the 24 significant bits of a `float`, ties to even. -/
def round (value : Nat) : ScaledFloat :=
  let unit := 2 ^ (value.log2 - 23)
  let quotient := value / unit
  let remainder := value % unit
  if 2 * remainder < unit ∨ (2 * remainder = unit ∧ quotient % 2 = 0) then
    quotient * unit
  else
    (quotient + 1) * unit

def add (first second : ScaledFloat) : ScaledFloat :=
  round (first + second)

/-- The `float` nearest to the literal `0.04`. -/
def fourHundredths : ScaledFloat :=
  10737418

/-- Conversion to an integer drops the fraction. -/
def truncate (value : ScaledFloat) : Int :=
  (value / 2 ^ 28 : Nat)

end ScaledFloat

/-- The value of a `uint8_t` parameter to which a C integer is passed. -/
def toByte (value : Int) : Nat :=
  (value % 256).toNat

/-- The operations of a Bounce2 debouncer with a fixed interval: `attach` on a
pin level at a time, `update` from the level read at a time, and `rose`. -/
class Bounce (Button : Type) where
  attach : Bool → UInt32 → Button
  update : Button → Bool → UInt32 → Button
  rose : Button → Bool

/-- A button which is read `low` and then `high`, each at two calls 25 ms
apart, has risen at one of the last two calls. -/
def Bounce.Presses (Button : Type) [Bounce Button] : Prop :=
  ∀ (button : Button) (now : UInt32),
    let pressed := update (update button low now) low (now + 25)
    let released := update pressed high (now + 50)
    rose released = true ∨ rose (update released high (now + 75)) = true

end Salsipuedes
