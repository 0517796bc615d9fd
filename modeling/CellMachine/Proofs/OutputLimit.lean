import CellMachine.Proofs.Consoles
import CellMachine.Proofs.Output

/-!
# Programs that write more than there is room for

A run whose output has a limit is the run without one, up to the first character that does not fit.
That character is cut off in its midst, if the limit is there; the `out` fails, and with it the run.
So what is written are the first bytes of what would have been written, as many as there is room
for.

The two runs are compared through `withLimit`, which puts a limit on an output that has none. It
goes past steps that fit (`step_withLimit`), hence past a run that does (`after_withLimit`).

## Main statements

* `after_withLimit` — while everything fits, a limit has no influence
* `full_of_not_fits` — the step that writes what does not fit
* `limit_cuts_off` — the two runs after any number of steps
-/

namespace CellMachine

/-! ## Writing under a limit -/

/-- The output with a limit. -/
def Output.withLimit (limit : Nat) (output : Output) : Output := { output with limit := some limit }

/-- The terminal whose output has a limit. -/
def Terminal.withLimit (limit : Nat) (t : Terminal) : Terminal :=
  ⟨t.input, t.output.withLimit limit⟩

theorem Output.fitting_withLimit (limit : Nat) (output : Output) (bs : List UInt8) :
    (output.withLimit limit).fitting bs = bs.take (limit - output.bytes.size) := rfl

namespace Terminal

variable {limit : Nat} {t : Terminal} {c : Char}

theorem readsAlike_withLimit (limit : Nat) (t : Terminal) : ReadsAlike (withLimit limit) t := by
  show (t.withLimit limit).read = (t.read.1, t.read.2.withLimit limit)
  unfold read
  dsimp only [withLimit]
  split
  · rfl
  · split
    · rfl
    · split
      · rfl
      · split <;> rfl

theorem writesAlike_withLimit (hroom : t.output.limit = none)
    (hfits : t.output.bytes.size + (Utf8.encode c).length ≤ limit) :
    WritesAlike (withLimit limit) t c := by
  have hfitting : (t.withLimit limit).output.fitting (Utf8.encode c) = Utf8.encode c :=
    List.take_of_length_le (Nat.le_sub_of_add_le' hfits)
  show (t.withLimit limit).write c = ((t.write c).1, (t.write c).2.withLimit limit)
  rw [write_of_fits hfitting, write_of_limit_eq_none hroom]
  rfl

/-- What does not fit is cut off at the limit. -/
theorem write_withLimit_of_not_fits (hbefore : t.output.bytes.size ≤ limit)
    (hafter : limit < t.output.bytes.size + (Utf8.encode c).length) :
    ((t.withLimit limit).write c).1 = .error .full ∧
      ((t.withLimit limit).write c).2.output.bytes.toList =
        (t.output.bytes.toList ++ Utf8.encode c).take limit ∧
      ((t.withLimit limit).write c).2.output.flushes = t.output.flushes := by
  have hshort : ((t.withLimit limit).output.fitting (Utf8.encode c)).length <
      (Utf8.encode c).length := by
    rw [withLimit, Output.fitting_withLimit, List.length_take]
    omega
  refine ⟨?_, ?_, ?_⟩
  · rw [write_of_not_fits hshort]
  · rw [bytes_write, List.take_append, Array.length_toList, List.take_of_length_le hbefore]
    rfl
  · rw [write_of_not_fits hshort]
    rfl

end Terminal

namespace Session

variable {limit : Nat} {s : Session Terminal}

/-- The session whose output has a limit. -/
def withLimit (limit : Nat) (s : Session Terminal) : Session Terminal :=
  s.map (Terminal.withLimit limit)

/-! ## One step -/

/-- A step whose output fits is the same under the limit. -/
theorem step_withLimit (hroom : s.Unlimited) (hfits : s.next.written.length ≤ limit) :
    (s.withLimit limit).step = (s.step.1, s.next.withLimit limit) := by
  refine step_map ?_ ?_
  · intro dst _
    exact Terminal.readsAlike_withLimit limit s.console
  · intro x c hi hc
    refine Terminal.writesAlike_withLimit hroom ?_
    rw [written, output_next_of_output hi, hc] at hfits
    simpa only [Terminal.write_of_limit_eq_none hroom, Output.put, Array.toList_appendList,
      List.length_append, Array.length_toList] using hfits

/-- **The step that writes what does not fit** is an `out`, and fails under the limit. The first
bytes of its character are written, as many as fit. -/
theorem full_of_not_fits (hroom : s.Unlimited) (hbefore : s.written.length ≤ limit)
    (hafter : limit < s.next.written.length) :
    (∃ x, s.Executes (.output x)) ∧
      (s.withLimit limit).step.1 = .error ⟨s.ip, .console .full⟩ ∧
      (s.withLimit limit).next.written = s.next.written.take limit ∧
      (s.withLimit limit).next.flushes = s.flushes := by
  have hnext := written_next hroom
  cases hprinted : s.printed? with
  | none =>
    rw [hprinted, Option.toList_none, List.flatMap_nil, List.append_nil] at hnext
    rw [hnext] at hafter
    exact absurd hbefore (Nat.not_le_of_lt hafter)
  | some c =>
    obtain ⟨-, x, hi, hvalue⟩ := printed?_eq_some_iff.mp hprinted
    rw [hprinted, Option.toList_some, List.flatMap_singleton] at hnext
    rw [hnext, List.length_append] at hafter
    obtain ⟨hfull, hbytes, hflushes⟩ :=
      Terminal.write_withLimit_of_not_fits (t := s.console) (c := c) hbefore hafter
    -- under the limit, the same `out` with the same value
    have hi' : (s.withLimit limit).Executes (.output x) := hi
    have hc' : charOfCell? ((s.withLimit limit).core.value x) = some c :=
      charOfCell?_eq_some_iff.mpr hvalue
    refine ⟨⟨x, hi⟩, ?_, ?_, ?_⟩
    · have hwrite : (Console.write c (s.withLimit limit).console).1 = .error .full := hfull
      rw [answer_of_output_of_some hi' hc', hwrite]
      rfl
    · rw [written, output_next_of_output hi', hc', hnext]
      exact hbytes
    · rw [flushes, output_next_of_output hi', hc']
      exact hflushes

/-! ## Many steps -/

/-- **While everything fits, a limit has no influence.** -/
theorem after_withLimit (hroom : s.Unlimited) {n : Nat}
    (hfits : (s.after n).written.length ≤ limit) :
    (s.withLimit limit).after n = (s.after n).withLimit limit := by
  have hstep (i : Nat) (hi : i < n) : (s.after (i + 1)).written.length ≤ limit :=
    Nat.le_trans (written_mono hroom (Nat.succ_le_of_lt hi)).length_le hfits
  exact (after_of_forall_step (·.withLimit limit) fun i hi =>
    step_withLimit (unlimited_after hroom i) (hstep i hi)).1

/-- A run that writes more than fits does so at one step. -/
theorem exists_first_not_fits (hstart : s.written.length ≤ limit) {n : Nat}
    (h : limit < (s.after n).written.length) :
    ∃ k < n, (s.after k).written.length ≤ limit ∧ limit < (s.after (k + 1)).written.length := by
  induction n with
  | zero => exact absurd hstart (Nat.not_le_of_lt h)
  | succ n ih =>
    rcases Nat.lt_or_ge limit (s.after n).written.length with hlt | hge
    · obtain ⟨k, hk, hfits⟩ := ih hlt
      exact ⟨k, Nat.lt_succ_of_lt hk, hfits⟩
    · exact ⟨n, Nat.lt_succ_self n, hge, h⟩

/-- After the first step whose output does not fit, a run under the limit goes no further. -/
theorem after_withLimit_of_not_fits (hroom : s.Unlimited) {k : Nat}
    (hbefore : (s.after k).written.length ≤ limit)
    (hafter : limit < (s.after (k + 1)).written.length) {n : Nat} (hn : k < n) :
    (s.withLimit limit).after n = ((s.after k).withLimit limit).next := by
  obtain ⟨-, hfull, -⟩ := full_of_not_fits (unlimited_after hroom k) hbefore hafter
  have hstopped : ((s.after k).withLimit limit).next.machine.status ≠ .running :=
    mt completes_iff_status_next.mpr (not_completes_of_error hfull)
  rw [← after_withLimit hroom hbefore, ← after_succ] at hstopped ⊢
  exact after_of_le_of_ne_running hstopped hn

/-- **A run under a limit writes the first bytes** of what it would write without it. -/
theorem written_withLimit (hroom : s.Unlimited) (hstart : s.written.length ≤ limit) (n : Nat) :
    ((s.withLimit limit).after n).written = (s.after n).written.take limit := by
  rcases Nat.lt_or_ge limit (s.after n).written.length with hlt | hfits
  · obtain ⟨k, hk, hbefore, hafter⟩ := exists_first_not_fits hstart hlt
    obtain ⟨-, -, hcut, -⟩ := full_of_not_fits (unlimited_after hroom k) hbefore hafter
    -- what has been written since does not count, since it is beyond the limit
    obtain ⟨later, hlater⟩ := written_mono hroom (Nat.succ_le_of_lt hk)
    rw [after_withLimit_of_not_fits hroom hbefore hafter hk, hcut, ← hlater,
      List.take_append_of_le_length (Nat.le_of_lt hafter)]
    rfl
  · rw [after_withLimit hroom hfits, List.take_of_length_le hfits]
    rfl

/-- A run `s` without a limit, and the same run `t` with room for `limit` bytes. -/
structure CutOff (s t : Session Terminal) (limit : Nat) : Prop where
  /-- While everything fits, the runs differ in the limit only, and their steps answer the same. -/
  same : ∀ n, (s.after n).written.length ≤ limit →
    t.after n = (s.after n).withLimit limit ∧ ∀ i < n, (t.after i).step.1 = (s.after i).step.1
  /-- The bytes that are written are the first ones. -/
  written : ∀ n, (t.after n).written = (s.after n).written.take limit
  /-- The first step whose output does not fit is an `out`. It fails without a flush, and nothing
  changes afterwards. -/
  full : ∀ k, (s.after k).written.length ≤ limit → limit < (s.after (k + 1)).written.length →
    (∃ x, (t.after k).Executes (.output x)) ∧
      (t.after k).step.1 = .error ⟨(t.after k).ip, .console .full⟩ ∧
      (t.after (k + 1)).flushes = (t.after k).flushes ∧ ∀ n > k, t.after n = t.after (k + 1)

/-- **A limit cuts off the output and is otherwise invisible**, from the image on, over any number
of steps. -/
theorem limit_cuts_off (settings : Settings) (image : List UInt8) (input : Input) (limit : Nat) :
    CutOff (start settings (.ofImage image) ⟨input, .empty none⟩)
      (start settings (.ofImage image) ⟨input, .empty (some limit)⟩) limit := by
  generalize hs : start settings (.ofImage image) (⟨input, .empty none⟩ : Terminal) = s
  have ht : start settings (.ofImage image) (⟨input, .empty (some limit)⟩ : Terminal) =
      s.withLimit limit := by
    rw [← hs]
    rfl
  have hroom : s.Unlimited := hs ▸ rfl
  have hstart : s.written.length ≤ limit := hs ▸ Nat.zero_le limit
  rw [ht]
  constructor
  · intro n hfits
    refine ⟨after_withLimit hroom hfits, ?_⟩
    intro i hi
    have hnext := Nat.le_trans (written_mono hroom (Nat.succ_le_of_lt hi)).length_le hfits
    have hbefore := Nat.le_trans (written_mono hroom (Nat.le_succ i)).length_le hnext
    rw [after_withLimit hroom hbefore, step_withLimit (unlimited_after hroom i) hnext]
  · exact written_withLimit hroom hstart
  · intro k hbefore hafter
    obtain ⟨hexec, hfull, -, hflushes⟩ :=
      full_of_not_fits (unlimited_after hroom k) hbefore hafter
    have hstays (n : Nat) (hn : k < n) :=
      after_withLimit_of_not_fits hroom hbefore hafter hn
    rw [hstays (k + 1) (Nat.lt_succ_self k), after_withLimit hroom hbefore]
    exact ⟨hexec, hfull, hflushes, hstays⟩

/-- There is room for one byte of the second character, which has two. -/
theorem limit_cuts_off_two :
    let image := Image.encode [19, 104, 19, 233, 0]
    let s := start {} (.ofImage image) (⟨.ofBytes [], .empty none⟩ : Terminal)
    let t := start {} (.ofImage image) (⟨.ofBytes [], .empty (some 2)⟩ : Terminal)
    (s.after 1).written.length ≤ 2 ∧ 2 < (s.after 2).written.length ∧
      t.after 1 = (s.after 1).withLimit 2 ∧
      (t.after 1).step.1 = .error ⟨(t.after 1).ip, .console .full⟩ ∧
      (t.after 3).written = [0x68, 0xC3] ∧ (s.after 3).written = [0x68, 0xC3, 0xA9] := by
  intro image s t
  have hcut : CutOff s t 2 := limit_cuts_off {} image (.ofBytes []) 2
  have hbefore : (s.after 1).written.length ≤ 2 := by decide +kernel
  have hafter : 2 < (s.after 2).written.length := by decide +kernel
  have hwritten : (s.after 3).written = [0x68, 0xC3, 0xA9] := by decide +kernel
  refine ⟨hbefore, hafter, (hcut.same 1 hbefore).1, (hcut.full 1 hbefore hafter).2.1, ?_, hwritten⟩
  rw [hcut.written, hwritten]
  rfl

end Session

end CellMachine
