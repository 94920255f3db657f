import Salsipuedes.WifiHelperMaquina
import Mathlib.Data.Nat.Digits.Defs
import Mathlib.Tactic.NormNum

/-!
# What the helper of the machine prints

The helper prints its log on the link to the machine: fixed lines, numbers, and
the first byte of a datagram between brackets.  A property which these pieces
have, and which texts keep when they are joined, is one of the whole log.
-/

namespace Salsipuedes

/-- The bytes which an effect puts on `Serial`. -/
def NodeEvent.bytes : NodeEvent → Text
  | .print text => text.toList
  | .println line => line.toList ++ ['\r', '\n']
  | _ => []

namespace WifiHelperMaquina

/-! ## Numbers -/

theorem printNumber_toList {number base : Nat} (positive : number ≠ 0) :
    (printNumber number base).toList =
      ((Nat.digits base number).reverse.map digitByte).takeWhile
        (· ≠ Char.ofNat 0) := by
  rw [printNumber, if_neg positive, String.toList_ofList]

theorem printNumber_digits (number : Nat) :
    ∀ c ∈ (printNumber number 10).toList, ∃ digit < 16, c = digitByte digit := by
  by_cases zero : number = 0
  · have shown : printNumber number 10 = "0" := if_pos zero
    rw [shown]
    exact List.forall_mem_singleton.mpr ⟨0, by decide, by decide⟩
  · intro c member
    rw [printNumber_toList zero] at member
    obtain ⟨digit, isDigit, rfl⟩ :=
      List.mem_map.mp ((List.takeWhile_sublist _).subset member)
    have small := Nat.digits_lt_base (by norm_num) (List.mem_reverse.mp isDigit)
    exact ⟨digit, by omega, rfl⟩

/-- In every base, the digits of a byte before the last one are small. -/
theorem digit_small {number base digit : Nat} (byte : number < 256)
    (proper : 1 < base) (member : digit ∈ Nat.digits base (number / base)) :
    digit < 16 := by
  by_cases narrow : base ≤ 16
  · have := Nat.digits_lt_base proper member
    omega
  · have quotient : number / base < 16 := by
      apply Nat.div_lt_of_lt_mul
      omega
    by_cases zero : number / base = 0
    · rw [zero, Nat.digits_zero] at member
      exact absurd member List.not_mem_nil
    · rw [Nat.digits_of_lt base _ zero (by omega)] at member
      rw [List.mem_singleton.mp member]
      exact quotient

/-- A byte in any base: all its digits but the last one are small. -/
theorem printNumber_shape {number base : Nat} (byte : number < 256)
    (proper : 1 < base) :
    ∃ front last : Text, (printNumber number base).toList = front ++ last ∧
      last.length ≤ 1 ∧ ∀ c ∈ front, ∃ digit < 16, c = digitByte digit := by
  by_cases zero : number = 0
  · have shown : printNumber number base = "0" := if_pos zero
    exact ⟨[], ['0'], by rw [shown]; rfl, Nat.le_refl 1, by simp⟩
  rw [printNumber_toList zero, Nat.digits_def' proper (Nat.pos_of_ne_zero zero),
    List.reverse_cons, List.map_append, List.map_singleton]
  have plain : ∀ c ∈ (Nat.digits base (number / base)).reverse.map digitByte,
      ∃ digit < 16, c = digitByte digit := by
    intro c shown
    obtain ⟨digit, isDigit, rfl⟩ := List.mem_map.mp shown
    exact ⟨digit, digit_small byte proper (List.mem_reverse.mp isDigit), rfl⟩
  generalize (Nat.digits base (number / base)).reverse.map digitByte = front
    at plain
  generalize digitByte (number % base) = unit
  have shown := List.takeWhile_prefix (fun c => decide (c ≠ Char.ofNat 0))
    (l := front ++ [unit])
  rcases List.prefix_concat_iff.mp shown with whole | shorter
  · exact ⟨front, [unit], whole, Nat.le_refl 1, plain⟩
  · exact ⟨_, [], (List.append_nil _).symm, Nat.zero_le 1,
      fun c member => plain c (shorter.subset member)⟩

theorem printBase_proper (size : Nat) : 1 < printBase size := by
  unfold printBase
  split <;> omega

/-! ## The log -/

/-- The lines of the log which are the same every time. -/
def fijas : List NodeEvent :=
  [.println "", .println "Connecting to WiFi", .print "Connecting", .print ".",
    .print "Connected to ", .println ssid, .print "IP address: ",
    .println "HTTP server started",
    .println "Connecting to UDP\u00e2\u0080\u009d",
    .println "Connection successful", .println "Connection failed",
    .print "Received packet of size ", .print "From ", .print ", port ",
    .println "Contents:", .print "Packet contents: [", .println "root request",
    .println "testing request"]

/-- A property of texts which the pieces of the log have and which joining keeps.
The byte between brackets ends with any character. -/
structure Logged (Good : Text → Prop) : Prop where
  append : ∀ {first second}, Good first → Good second → Good (first ++ second)
  digits : ∀ {text : Text},
    (∀ c ∈ text, ∃ digit < 16, c = digitByte digit) → Good text
  closing : ∀ {last : Text}, last.length ≤ 1 → Good (last ++ "]\r\n".toList)
  fixed : ∀ event ∈ fijas, Good event.bytes

namespace Logged

variable {Good : Text → Prop}

theorem flatMap (logged : Logged Good) {events : List NodeEvent}
    (each : ∀ event ∈ events, Good event.bytes) :
    Good (events.flatMap NodeEvent.bytes) := by
  induction events with
  | nil => exact logged.digits (by simp)
  | cons event events ih =>
      obtain ⟨here, later⟩ := List.forall_mem_cons.mp each
      rw [List.flatMap_cons]
      exact logged.append here (ih later)

theorem known (logged : Logged Good) {events : List NodeEvent}
    (fixed : ∀ event ∈ events, event ∈ fijas) :
    ∀ event ∈ events, Good event.bytes :=
  fun event here => logged.fixed event (fixed event here)

theorem number (logged : Logged Good) (number : Nat) :
    Good (printNumber number 10).toList :=
  logged.digits (printNumber_digits number)

theorem println_number (logged : Logged Good) (number : Nat) :
    Good (NodeEvent.println (printNumber number 10)).bytes :=
  logged.append (logged.number number)
    (logged.fixed (.println "") List.mem_cons_self)

theorem printIP (logged : Logged Good) (bytes : Nat → UInt8) :
    ∀ event ∈ printIP bytes, Good event.bytes := by
  have dot : Good (NodeEvent.print ".").bytes :=
    logged.fixed (.print ".") (by simp [fijas])
  have shown (which : Nat) : Good
      (NodeEvent.print (printNumber (bytes which).toNat 10)).bytes :=
    logged.number _
  simp [WifiHelperMaquina.printIP, dot, shown]

theorem connecting (logged : Logged Good) (tries : Nat) :
    ∀ event ∈ connecting tries, Good event.bytes := by
  apply logged.known
  simp [WifiHelperMaquina.connecting, fijas]

/-- What the helper prints at power-up. -/
theorem bootLog (logged : Logged Good) (boot : Boot) :
    ∀ event ∈ bootLog boot, Good event.bytes := by
  have failed : ∀ event ∈
      (List.replicate boot.failed (WifiHelperMaquina.connecting 62)).flatten,
      Good event.bytes := by
    intro event here
    obtain ⟨lines, round, here⟩ := List.mem_flatten.mp here
    rw [List.eq_of_mem_replicate round] at here
    exact logged.connecting 62 event here
  have connected : ∀ event ∈ connectedLog boot.localIP, Good event.bytes := by
    have greeting : ∀ event ∈ [NodeEvent.println "", .print "Connected to ",
        .println ssid, .print "IP address: "], Good event.bytes :=
      logged.known (by simp [fijas])
    have ending : ∀ event ∈ [NodeEvent.println ""], Good event.bytes :=
      logged.known (by simp [fijas])
    have whole := List.forall_mem_append.mpr ⟨greeting,
      List.forall_mem_append.mpr ⟨logged.printIP boot.localIP, ending⟩⟩
    simpa [connectedLog] using whole
  have server : ∀ event ∈ serverLog boot.udp, Good event.bytes := by
    apply logged.known
    cases boot.udp <;> simp [serverLog, fijas]
  have waiting := logged.connecting boot.tries
  exact List.forall_mem_append.mpr ⟨List.forall_mem_append.mpr
    ⟨List.forall_mem_append.mpr ⟨failed, waiting⟩, connected⟩, server⟩

theorem senderLog (logged : Logged Good) (packet : Packet) :
    ∀ event ∈ senderLog packet, Good event.bytes := by
  have start : ∀ event ∈ [NodeEvent.println "", .print "Received packet of size ",
      .print "From ", .print ", port "], Good event.bytes :=
    logged.known (by simp [fijas])
  have size := logged.println_number packet.size
  have address := logged.printIP packet.remoteIP
  have port := logged.println_number packet.remotePort
  simp only [List.forall_mem_cons] at start
  obtain ⟨line, received, sender, comma, -⟩ := start
  refine List.forall_mem_cons.mpr ⟨line, List.forall_mem_cons.mpr ⟨received,
    List.forall_mem_cons.mpr ⟨size, List.forall_mem_cons.mpr ⟨sender, ?_⟩⟩⟩⟩
  exact List.forall_mem_append.mpr ⟨address, List.forall_mem_cons.mpr
    ⟨comma, List.forall_mem_singleton.mpr port⟩⟩

/-- Whatever the first byte of a datagram is, and however it is printed. -/
theorem contentsLog (logged : Logged Good) (packet : Packet) :
    Good ((contentsLog packet).flatMap NodeEvent.bytes) := by
  have start : Good (([.println "Contents:",
      .println (printNumber (packet.byte0.toNat * 256 + packet.byte1.toNat) 10),
      .print "Packet contents: ["] : List NodeEvent).flatMap NodeEvent.bytes) := by
    have heading := logged.fixed (.println "Contents:") (by simp [fijas])
    have bracket := logged.fixed (.print "Packet contents: [") (by simp [fijas])
    exact logged.flatMap (List.forall_mem_cons.mpr ⟨heading,
      List.forall_mem_cons.mpr ⟨logged.println_number _,
        List.forall_mem_singleton.mpr bracket⟩⟩)
  obtain ⟨front, last, shape, single, small⟩ :=
    printNumber_shape packet.byte0.toNat_lt (printBase_proper packet.size)
  have byte := logged.append (logged.digits small) (logged.closing single)
  rw [← List.append_assoc, ← shape] at byte
  have shown := logged.append start byte
  simpa [WifiHelperMaquina.contentsLog, NodeEvent.bytes] using shown

/-- What the helper prints about a datagram. -/
theorem packetLog (logged : Logged Good) (packet : Packet) :
    Good ((packetLog packet).flatMap NodeEvent.bytes) := by
  rw [WifiHelperMaquina.packetLog, List.flatMap_append]
  exact logged.append (logged.flatMap (logged.senderLog packet))
    (logged.contentsLog packet)

end Logged

end WifiHelperMaquina

end Salsipuedes
