import CellMachine.Proofs.Calls
import CellMachine.Proofs.ConsoleRoundTrip
import CellMachine.Proofs.Input

/-!
# A program that copies its input

Three instructions read a character, write it, and go back. One lap of the loop copies one character
that a register can hold; so the program copies the longest sequence of such characters that the
input begins with, and stops at the `in` that does not get another one. What is left of the input
tells how.

The laps are put together as stretches of a run (`Reaches`): what a lap does is said of any session
that is at the head of the loop, whatever its log.

## Main statements

* `isLongest_iff` — the longest sequence ends where no such character follows
* `reaches_lap` — one lap of the loop
* `echo_copies_input` — the whole run
-/

namespace CellMachine

/-! ## What is copied -/

namespace Utf8

/-- The longest sequence of characters that a literal can hold, such that the bytes begin with their
encodings. -/
structure IsLongest (cs : List Char) (bytes : List UInt8) : Prop where
  small : ∀ c ∈ cs, c.toNat < modulus
  begins : cs.flatMap encode <+: bytes
  longest : ∀ ds : List Char, (∀ d ∈ ds, d.toNat < modulus) → ds.flatMap encode <+: bytes →
    ds.length ≤ cs.length

/-- No character that a literal can hold comes next. -/
def Stuck (bytes : List UInt8) : Prop := ∀ c : Char, c.toNat < modulus → ¬encode c <+: bytes

variable {cs : List Char} {bytes rest : List UInt8}

/-- Bytes begin with one encoding at most. -/
theorem encode_append_inj {c d : Char} {left left' : List UInt8}
    (h : encode c ++ left = encode d ++ left') : c = d ∧ left = left' := by
  have hread := Terminal.readBytes_append c left
  rw [h, Terminal.readBytes_append, Prod.mk.injEq, Except.ok.injEq, Option.some.injEq] at hread
  exact ⟨hread.1.symm, hread.2.symm⟩

theorem length_le_of_stuck {ds : List Char} (hstuck : Stuck rest)
    (hsmall : ∀ d ∈ ds, d.toNat < modulus)
    (h : ds.flatMap encode <+: cs.flatMap encode ++ rest) : ds.length ≤ cs.length := by
  induction ds generalizing cs with
  | nil => exact Nat.zero_le _
  | cons d ds ih =>
    obtain ⟨hd, hds⟩ := List.forall_mem_cons.mp hsmall
    obtain ⟨more, hmore⟩ := h
    rw [List.flatMap_cons, List.append_assoc] at hmore
    cases cs with
    | nil => exact absurd ⟨_, hmore⟩ (hstuck d hd)
    | cons c cs =>
      rw [List.flatMap_cons, List.append_assoc] at hmore
      exact Nat.succ_le_succ (ih hds ⟨more, (encode_append_inj hmore).2⟩)

/-- **The longest sequence ends where no such character follows.** -/
theorem isLongest_iff :
    IsLongest cs (cs.flatMap encode ++ rest) ↔ (∀ c ∈ cs, c.toNat < modulus) ∧ Stuck rest := by
  constructor
  · intro h
    refine ⟨h.small, ?_⟩
    rintro c hc ⟨more, rfl⟩
    have hlonger := h.longest (cs ++ [c]) (List.forall_mem_append.mpr ⟨h.small, by simpa using hc⟩)
      ⟨more, by simp⟩
    rw [List.length_append, List.length_singleton] at hlonger
    omega
  · rintro ⟨hsmall, hstuck⟩
    exact ⟨hsmall, List.prefix_append _ _, fun ds hds h => length_le_of_stuck hstuck hds h⟩

theorem exists_isLongest (bytes : List UInt8) : ∃ cs, IsLongest cs bytes := by
  suffices hsplit : ∃ (cs : List Char) (rest : List UInt8), (∀ c ∈ cs, c.toNat < modulus) ∧
      Stuck rest ∧ bytes = cs.flatMap encode ++ rest by
    obtain ⟨cs, rest, hsmall, hstuck, rfl⟩ := hsplit
    exact ⟨cs, isLongest_iff.mpr ⟨hsmall, hstuck⟩⟩
  -- by the number of bytes, taking one character after another
  induction hlength : bytes.length using Nat.strongRecOn generalizing bytes with
  | ind m ih =>
    by_cases hnext : ∃ c : Char, c.toNat < modulus ∧ encode c <+: bytes
    · obtain ⟨c, hc, left, rfl⟩ := hnext
      have hlt : left.length < m := hlength ▸ length_lt_encode_append c left
      obtain ⟨cs, rest, hsmall, hstuck, rfl⟩ := ih _ hlt left rfl
      exact ⟨c :: cs, rest, List.forall_mem_cons.mpr ⟨hc, hsmall⟩, hstuck, by simp⟩
    · exact ⟨[], bytes, nofun, fun c hc hbegins => hnext ⟨c, hc, hbegins⟩, rfl⟩

end Utf8

/-! ## Stretches of a run -/

namespace Session

variable {κ : Type} [Console κ] {s : Session κ} {m m' : Machine} {console console' : κ} {n k : Nat}

/-- The session makes `n` steps that complete, and then has some machine and console. -/
structure Reaches (s : Session κ) (n : Nat) (m : Machine) (console : κ) : Prop where
  completes : ∀ i < n, (s.after i).Completes
  machine : (s.after n).machine = m
  console : (s.after n).console = console

/-- Stretches of a run are put together. -/
theorem Reaches.trans (h : s.Reaches n m console) (hrest : (s.after n).Reaches k m' console') :
    s.Reaches (n + k) m' console' := by
  refine ⟨?_, ?_, ?_⟩
  · intro i hi
    rcases Nat.lt_or_ge i n with hlt | hge
    · exact h.completes i hlt
    · obtain ⟨j, rfl⟩ := Nat.exists_eq_add_of_le hge
      rw [after_add]
      exact hrest.completes j (by omega)
  · rw [after_add, hrest.machine]
  · rw [after_add, hrest.console]

/-- A step is a stretch of its own if its instruction goes on to the next. -/
theorem reaches_of_executes {i : Instruction} {p : Program} {core : Core} (hs : s.machine = m)
    (hi : m.Executes i) (heffect : m.effect s.console i = ⟨.next, p, core, console⟩) :
    s.Reaches 1 ⟨m.settings, p, core, .running, m.cycles + 1⟩ console := by
  subst hs
  refine ⟨?_, ?_, ?_⟩
  · intro j hj
    obtain rfl := Nat.lt_one_iff.mp hj
    exact (completes_iff_of_executes hi).mpr (congrArg Effect.flow heffect)
  · show s.next.machine = _
    rw [next_of_executes hi, heffect]
    rfl
  · show s.next.console = _
    rw [console_next_of_executes hi, heffect]

end Session

/-! ## The program -/

/-- The cells of the program: `in r0`, `out r0`, `jmp 0`. -/
def echoCells : List Cell := [20, 32768, 19, 32768, 6, 0]

/-- The program at an address. -/
def Program.echo (address : Nat) : Program := ⟨echoCells.toArray, address⟩

/-- The machine that runs the program. -/
def Machine.echo (settings : Settings) (address : Nat) (core : Core) (cycles : Nat) : Machine :=
  ⟨settings, .echo address, core, .running, cycles⟩

theorem Machine.echo_executes {settings : Settings} {address : Nat} {core : Core} {cycles : Nat}
    {i : Instruction} (h : (Program.echo address).At i) :
    (Machine.echo settings address core cycles).Executes i :=
  ⟨rfl, h⟩

/-- Registers and stack after one more character has been read. -/
def Core.receive (core : Core) (c : Char) : Core := core.set ⟨0⟩ (.ofNat c.toNat)

theorem Core.value_receive {core : Core} {c : Char} (hc : c.toNat < modulus) :
    charOfCell? ((core.receive c).value (.register ⟨0⟩)) = some c := by
  have hlt : c.toNat < 65536 := Nat.lt_trans hc (by decide)
  have hvalue : (core.receive c).value (.register ⟨0⟩) = .ofNat c.toNat :=
    (Registers.get_set ..).trans (if_pos rfl)
  rw [charOfCell?_eq_some_iff, hvalue, UInt16.toNat_ofNat', Nat.mod_eq_of_lt hlt]

namespace Session

variable {s : Session Terminal} {settings : Settings} {core : Core} {t : Terminal} {n : Nat}
  {c : Char} {rest : List UInt8}

theorem reaches_input (hs : s.machine = .echo settings 0 core n)
    (hread : s.console.read = (.ok (some c), t)) (hc : c.toNat < modulus) :
    s.Reaches 1 (.echo settings 2 (core.receive c) (n + 1)) t := by
  have heffect : (Machine.echo settings 0 core n).effect s.console (.input ⟨0⟩) =
      ⟨.next, .echo 2, core.receive c, t⟩ := by
    have hread' : Console.read s.console = (.ok (some c), t) := hread
    simp only [Machine.effect, execute, hread', cellOfChar?, if_pos hc]
    rfl
  exact reaches_of_executes hs (Machine.echo_executes (by decide)) heffect

theorem reaches_output (hs : s.machine = .echo settings 2 core n)
    (hvalue : charOfCell? (core.value (.register ⟨0⟩)) = some c) (hroom : s.Unlimited) :
    s.Reaches 1 (.echo settings 4 core (n + 1)) ⟨s.console.input, s.console.output.put c⟩ := by
  have heffect : (Machine.echo settings 2 core n).effect s.console (.output (.register ⟨0⟩)) =
      ⟨.next, .echo 4, core, ⟨s.console.input, s.console.output.put c⟩⟩ := by
    have hwrite : Console.write c s.console =
        (.ok (), ⟨s.console.input, s.console.output.put c⟩) :=
      Terminal.write_of_limit_eq_none hroom
    simp only [Machine.effect, Machine.echo, execute, hvalue, hwrite]
    rfl
  exact reaches_of_executes hs (Machine.echo_executes (by decide)) heffect

theorem reaches_jump (hs : s.machine = .echo settings 4 core n) :
    s.Reaches 1 (.echo settings 0 core (n + 1)) s.console := by
  have hi : (Machine.echo settings 4 core n).Executes (.jump (.literal 0 (by decide))) :=
    Machine.echo_executes (by decide)
  exact reaches_of_executes hs hi rfl

/-- **One lap copies one character.** -/
theorem reaches_lap (hs : s.machine = .echo settings 0 core n) (hc : c.toNat < modulus)
    (hroom : s.Unlimited) (hunread : s.unread = Utf8.encode c ++ rest) :
    ∃ input : Input, input.bytes = rest ∧
      s.Reaches 3 (.echo settings 0 (core.receive c) (n + 3)) ⟨input, s.console.output.put c⟩ := by
  obtain ⟨hread, hleft⟩ := Terminal.read_eq_char_iff.mpr hunread
  have houtput := s.console.output_read
  refine ⟨s.console.read.2.input, hleft, ?_⟩
  have hin : s.Reaches 1 _ s.console.read.2 := reaches_input hs (Prod.ext hread rfl) hc
  have hroom₁ : (s.after 1).Unlimited := by
    rw [Unlimited, hin.console, houtput]
    exact hroom
  have hout := reaches_output hin.machine (Core.value_receive hc) hroom₁
  rw [hin.console, houtput] at hout
  have hback := reaches_jump hout.machine
  rw [hout.console] at hback
  exact (hin.trans hout).trans hback

/-- **The laps copy one character after another.** -/
theorem reaches_laps {cs : List Char} (hs : s.machine = .echo settings 0 core n)
    (hcs : ∀ c ∈ cs, c.toNat < modulus) (hroom : s.Unlimited)
    (hunread : s.unread = cs.flatMap Utf8.encode ++ rest) :
    ∃ input : Input, input.bytes = rest ∧
      s.Reaches (3 * cs.length)
        (.echo settings 0 (cs.foldl Core.receive core) (n + 3 * cs.length))
        ⟨input, cs.foldl Output.put s.console.output⟩ := by
  induction cs generalizing s core n with
  | nil => exact ⟨s.console.input, hunread, nofun, hs, rfl⟩
  | cons c cs ih =>
    obtain ⟨hc, hcs⟩ := List.forall_mem_cons.mp hcs
    rw [List.flatMap_cons, List.append_assoc] at hunread
    obtain ⟨left, hleft, hlap⟩ := reaches_lap hs hc hroom hunread
    have hroom' : (s.after 3).Unlimited := by
      rw [Unlimited, hlap.console]
      exact hroom
    have hunread' : (s.after 3).unread = cs.flatMap Utf8.encode ++ rest := by
      rw [unread, hlap.console, hleft]
    obtain ⟨input, hinput, hlaps⟩ := ih hlap.machine hcs hroom' hunread'
    rw [hlap.console] at hlaps
    have hcount : 3 * (c :: cs).length = 3 + 3 * cs.length := by
      rw [List.length_cons, Nat.mul_succ, Nat.add_comm]
    refine ⟨input, hinput, ?_⟩
    rw [hcount, ← Nat.add_assoc]
    exact hlap.trans hlaps

/-! ## The end -/

theorem executes_input (hs : s.machine = .echo settings 0 core n) : s.Executes (.input ⟨0⟩) := by
  rw [Executes, hs]
  exact Machine.echo_executes (by decide)

/-- At the head of the loop, when no character follows that can be copied, the machine stops and
leaves all but the count and the input as they are. -/
theorem next_of_stuck (hs : s.machine = .echo settings 0 core n) (hstuck : Utf8.Stuck s.unread) :
    ¬s.Completes ∧ s.next.cells = echoCells.toArray ∧ s.next.core = core ∧
      s.next.machine.cycles = n + 1 ∧ s.next.console.output = s.console.output := by
  have hi := executes_input hs
  have hcompletes : ¬s.Completes := by
    intro hcompletes
    obtain ⟨c, hc, hbegins⟩ := (inputEnds hi).completes.mp hcompletes
    exact hstuck c hc hbegins
  obtain ⟨hprogram, hcore⟩ :=
    execute_of_flow_ne_next (mt (completes_iff_of_executes hi).mpr hcompletes)
  refine ⟨hcompletes, ?_, ?_, ?_, ?_⟩
  · rw [cells, next_of_executes hi, Machine.settle_program, Machine.effect, hprogram, hs]
    rfl
  · rw [Session.core, next_of_executes hi, Machine.settle_core, Machine.effect, hcore, hs]
    rfl
  · rw [next_of_executes hi, Machine.settle_cycles, hs]
    rfl
  · rw [console_next_of_executes hi, Machine.effect, console_execute]
    exact s.console.output_read

/-- What the program leaves that has copied some characters. -/
structure Copied (t : Session Terminal) (cs : List Char) : Prop where
  cycles : t.machine.cycles = 3 * cs.length + 1
  written : t.written = cs.flatMap Utf8.encode
  flushes : t.flushes = cs.length
  cells : t.cells = echoCells.toArray
  stack : t.stack = []
  /-- Register 0 holds the last character. -/
  register : (t.core.registers.get ⟨0⟩).toNat = (cs.getLast?.map Char.toNat).getD 0

/-- How the run ends, by the bytes that are left. -/
structure EchoEnds (policy : EndOfInput) (rest : List UInt8) (result : Except Fault Halt) :
    Prop where
  halts : rest = [] → policy = .halt → result = .ok .endOfInput
  exhausted : rest = [] → policy = .fail → result = .error ⟨0, .inputExhausted⟩
  unrepresentable : ∀ c, Utf8.encode c <+: rest → result = .error ⟨0, .unrepresentableInput c⟩
  unreadable : rest ≠ [] → (∀ c, ¬Utf8.encode c <+: rest) →
    ∃ cause, result = .error ⟨0, .console cause⟩

theorem stack_foldl_receive (core : Core) (cs : List Char) :
    (cs.foldl Core.receive core).stack = core.stack := by
  induction cs generalizing core with
  | nil => rfl
  | cons c cs ih => exact ih (core.receive c)

theorem toNat_get_foldl_receive {core : Core} {cs : List Char} (hcs : ∀ c ∈ cs, c.toNat < modulus) :
    ((cs.foldl Core.receive core).registers.get ⟨0⟩).toNat =
      (cs.getLast?.map Char.toNat).getD (core.registers.get ⟨0⟩).toNat := by
  induction cs generalizing core with
  | nil => rfl
  | cons c cs ih =>
    obtain ⟨hc, hcs⟩ := List.forall_mem_cons.mp hcs
    have hlt : c.toNat < 65536 := Nat.lt_trans hc (by decide)
    have hget : (core.receive c).registers.get ⟨0⟩ = .ofNat c.toNat :=
      (Registers.get_set ..).trans (if_pos rfl)
    rw [List.foldl_cons, ih hcs, hget, UInt16.toNat_ofNat', Nat.mod_eq_of_lt hlt,
      List.getLast?_cons]
    cases cs.getLast? <;> rfl

theorem map_halted_eq_error_iff {result : Except Fault Halt} {fault : Fault} :
    result.map Status.halted = .error fault ↔ result = .error fault := by
  cases result <;> simp [Except.map]

theorem echoEnds_of_stuck {result : Except Fault Halt} (hs : s.machine = .echo settings 0 core n)
    (hstuck : Utf8.Stuck s.unread) (hresult : s.step.1 = result.map .halted) :
    EchoEnds settings.endOfInput s.unread result := by
  have hends := inputEnds (executes_input hs)
  have hip : s.ip = 0 := congrArg (·.program.ip) hs
  have hpolicy : s.machine.settings.endOfInput = settings.endOfInput :=
    congrArg (·.settings.endOfInput) hs
  obtain ⟨-, hexhausted, hunrepresentable, hunreadable⟩ := hends
  rw [hip, hpolicy, hresult] at hexhausted
  simp only [hip, hresult, map_halted_eq_error_iff] at hunrepresentable hunreadable
  refine ⟨?_, ?_, ?_, ?_⟩
  · intro hrest hhalt
    have hanswer := hexhausted.mpr hrest
    rw [hhalt] at hanswer
    cases result with
    | ok reason =>
      injection hanswer with hreason
      injection hreason with hreason
      rw [hreason]
    | error fault => cases hanswer
  · intro hrest hfail
    have hanswer := hexhausted.mpr hrest
    rw [hfail] at hanswer
    exact map_halted_eq_error_iff.mp hanswer
  · intro c hc
    exact (hunrepresentable c).mpr ⟨Nat.le_of_not_lt fun hlt => hstuck c hlt hc, hc⟩
  · intro hrest hno
    exact hunreadable.mpr ⟨hrest, hno⟩

/-- **The program copies its input**: the longest sequence of characters that it can hold, and no
more, in three steps each. With one step more the run ends, and what is left of the input tells
how. -/
theorem echo_copies_input (settings : Settings) (input : Input) :
    let s := start settings (.ofCells echoCells) (⟨input, .empty none⟩ : Terminal)
    (∃ cs, Utf8.IsLongest cs input.bytes) ∧
      ∀ (cs : List Char) (rest : List UInt8), Utf8.IsLongest cs input.bytes →
        input.bytes = cs.flatMap Utf8.encode ++ rest →
          s.StopsAfter (3 * cs.length) ∧ (s.after (3 * cs.length + 1)).Copied cs ∧
            ∃ result, s.run = some (result, s.after (3 * cs.length + 1)) ∧
              EchoEnds settings.endOfInput rest result := by
  intro s
  refine ⟨Utf8.exists_isLongest _, ?_⟩
  intro cs rest hlongest hbytes
  rw [hbytes] at hlongest
  obtain ⟨hsmall, hstuck⟩ := Utf8.isLongest_iff.mp hlongest
  have hstart : s.machine = .echo settings 0 .initial 0 := rfl
  obtain ⟨left, hleft, hlaps⟩ := reaches_laps hstart hsmall rfl hbytes
  have hunread : (s.after (3 * cs.length)).unread = rest := by
    rw [unread, hlaps.console, hleft]
  rw [← hunread] at hstuck ⊢
  obtain ⟨hcompletes, hcells, hcore, hcycles, houtput⟩ := next_of_stuck hlaps.machine hstuck
  rw [hlaps.console] at houtput
  obtain ⟨result, hresult⟩ := exists_answer_of_not_completes hcompletes
  refine ⟨⟨hlaps.completes, hcompletes⟩, ?_, result, ?_, ?_⟩
  · rw [after_succ]
    constructor
    · rw [hcycles, Nat.zero_add]
    · rw [written, houtput]
      exact Output.bytes_foldl_put _ cs
    · rw [Session.flushes, houtput, Output.flushes_foldl_put]
      exact Nat.zero_add _
    · exact hcells
    · show (s.after (3 * cs.length)).next.core.stack = []
      rw [hcore, stack_foldl_receive]
      rfl
    · rw [hcore, toNat_get_foldl_receive hsmall]
      rfl
  · exact run_eq_some_iff.mpr ⟨_, hlaps.completes, step_eq hresult⟩
  · exact echoEnds_of_stuck hlaps.machine hstuck hresult

/-- Two characters are copied, of one byte and of three, and the third is the first that is too
large. -/
theorem echo_copies_input_up_to_8000 :
    let bytes := [0x68, 0xE7, 0xBF, 0xBF, 0xE8, 0x80, 0x80, 0x68]
    let rest := [0xE8, 0x80, 0x80, 0x68]
    let s := start {} (.ofCells echoCells) (⟨.chunked 3 bytes, .empty none⟩ : Terminal)
    let cs := ['h', .ofNat 0x7FFF]
    Utf8.IsLongest cs (cs.flatMap Utf8.encode ++ rest) ∧
      bytes = cs.flatMap Utf8.encode ++ rest ∧ (s.after 7).Copied cs ∧
      s.run = some (.error ⟨0, .unrepresentableInput (.ofNat 0x8000)⟩, s.after 7) := by
  intro bytes rest s cs
  have hbytes : bytes = cs.flatMap Utf8.encode ++ rest := by decide +kernel
  have hsmall : ∀ c ∈ cs, c.toNat < modulus := by
    rw [List.forall_mem_cons, List.forall_mem_singleton]
    exact ⟨by decide +kernel, by decide +kernel⟩
  have hrest : Utf8.encode (.ofNat 0x8000) <+: rest := by decide +kernel
  have hstuck : Utf8.Stuck rest := by
    rintro c hc ⟨more, hmore⟩
    obtain ⟨left, hleft⟩ := hrest
    obtain ⟨rfl, -⟩ := Utf8.encode_append_inj (hmore.trans hleft.symm)
    exact absurd hc (by decide +kernel)
  have hlongest : Utf8.IsLongest cs (cs.flatMap Utf8.encode ++ rest) :=
    Utf8.isLongest_iff.mpr ⟨hsmall, hstuck⟩
  have hchunked : (Input.chunked 3 bytes).bytes = cs.flatMap Utf8.encode ++ rest :=
    (Input.bytes_chunked 3 bytes).trans hbytes
  obtain ⟨-, hcopies⟩ := echo_copies_input {} (.chunked 3 bytes)
  obtain ⟨-, hcopied, result, hrun, hends⟩ := hcopies cs rest (hchunked ▸ hlongest) hchunked
  rw [hends.unrepresentable _ hrest] at hrun
  exact ⟨hlongest, hbytes, hcopied, hrun⟩

end Session

end CellMachine
