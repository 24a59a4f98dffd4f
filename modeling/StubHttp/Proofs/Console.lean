import StubHttp.Console
import StubHttp.Proofs.Text.Utf8

/-!
# Writing to a console

What a console holds after a line has been written. A piece is offered again
until it is gone or a call takes nothing, so how much of it arrives does not
depend on the size of the calls (`Sink.Takes.acceptsWithin`). Behind a sink
that always takes something (`Sink.Roomy`) every piece arrives in full, and a
report leaves the line and its line feed (`report_of_roomy`), whether or not
they can be flushed. Behind one that has only so much room (`Sink.Bounded`) a
line is cut off where the room ends, and the report says so (`report_limited`).

`Reported` puts this together for every sink, without the calls: it tells from
the console before a report what is on it afterwards, and whether the log is
warned. A report does just that (`reported_iff`).
-/

namespace StubHttp

/-! ## Calls -/

namespace Sink

theorem accepts_le (s : Sink) (held offered : Nat) : s.accepts held offered ≤ offered := by
  cases s with
  | unlimited => exact Nat.le_refl _
  | unflushable => exact Nat.le_refl _
  | limited limit chunk =>
      cases limit <;> cases chunk <;> simp only [accepts, Option.elim_none, Option.elim_some] <;>
        omega
  | poisoned => exact Nat.zero_le _

/-- What a sink takes of a piece in the end, after `held` bytes and whatever the size of its calls:
no call takes more, each takes something while anything is missing, and what is missing after a
call is what is still to be taken. -/
structure Takes (s : Sink) (amount : (held offered : Nat) → Nat) : Prop where
  le_offered : ∀ held offered, amount held offered ≤ offered
  accepts_le_amount : ∀ held offered, s.accepts held offered ≤ amount held offered
  accepts_pos : ∀ held offered, 0 < amount held offered → 0 < s.accepts held offered
  remaining : ∀ held offered n, n ≤ amount held offered →
    amount (held + n) (offered - n) = amount held offered - n

/-- A call for each byte is enough. -/
theorem Takes.acceptsWithin {s : Sink} {amount : Nat → Nat → Nat} (hs : s.Takes amount) :
    ∀ {calls held offered : Nat}, offered ≤ calls →
      s.acceptsWithin calls held offered = amount held offered
  | 0, held, offered, h => by
      have hle := hs.le_offered held offered
      rw [Sink.acceptsWithin]
      omega
  | calls + 1, held, offered, h => by
      have hle := hs.accepts_le_amount held offered
      have hpos := hs.accepts_pos held offered
      have hoffered := hs.le_offered held offered
      rw [Sink.acceptsWithin]
      by_cases hzero : s.accepts held offered = 0
      · rw [if_pos hzero]
        omega
      · rw [if_neg hzero, hs.acceptsWithin (by omega), hs.remaining held offered _ hle]
        omega

/-- A sink that takes something of whatever it is offered. -/
def Roomy (s : Sink) : Prop :=
  ∀ held offered, 0 < offered → 0 < s.accepts held offered

theorem roomy_unlimited : Roomy .unlimited := fun _ _ h => h

theorem roomy_unflushable : Roomy .unflushable := fun _ _ h => h

/-- Small calls are no obstacle: what counts is that each takes a byte. -/
theorem roomy_limited {chunk : Option Nat} (hchunk : ∀ n ∈ chunk, 0 < n) :
    Roomy (.limited none chunk) := by
  intro held offered hoffered
  cases chunk with
  | none => exact hoffered
  | some n =>
      have hn := hchunk n rfl
      simp only [accepts, Option.elim_none, Option.elim_some]
      omega

/-- A roomy sink takes everything in the end. -/
theorem Roomy.takes {s : Sink} (hs : s.Roomy) : s.Takes fun _ offered => offered where
  le_offered _ _ := Nat.le_refl _
  accepts_le_amount := s.accepts_le
  accepts_pos := hs
  remaining _ _ _ _ := rfl

theorem Roomy.not_poisoned {s : Sink} (hs : s.Roomy) : s ≠ .poisoned := by
  rintro rfl
  exact absurd (hs 0 1 Nat.one_pos) (Nat.lt_irrefl 0)

/-- A sink that takes `room held` more bytes and then no more, once it holds so many. -/
structure Bounded (s : Sink) (room : (held : Nat) → Nat) : Prop where
  accepts_le_room : ∀ held offered, s.accepts held offered ≤ room held
  accepts_pos : ∀ held offered, 0 < offered → 0 < room held → 0 < s.accepts held offered
  room_add : ∀ held n, room (held + n) = room held - n

theorem Bounded.takes {s : Sink} {room : Nat → Nat} (hs : s.Bounded room) :
    s.Takes fun held offered => min offered (room held) where
  le_offered held offered := Nat.min_le_left _ _
  accepts_le_amount held offered :=
    Nat.le_min.mpr ⟨s.accepts_le held offered, hs.accepts_le_room held offered⟩
  accepts_pos held offered hpos := by
    obtain ⟨hoffered, hroom⟩ := Nat.lt_min.mp hpos
    exact hs.accepts_pos held offered hoffered hroom
  remaining held offered n _ := by
    rw [hs.room_add]
    omega

/-- A limit is what it says if every call takes at least one byte. -/
theorem bounded_limited {limit : Nat} {chunk : Option Nat} (hchunk : ∀ n ∈ chunk, 0 < n) :
    (Sink.limited (some limit) chunk).Bounded (limit - ·) where
  accepts_le_room held offered := by
    cases chunk <;> simp only [accepts, Option.elim_none, Option.elim_some] <;> omega
  accepts_pos held offered hoffered hroom := by
    cases chunk with
    | none =>
        simp only [accepts, Option.elim_none, Option.elim_some]
        omega
    | some n =>
        have hn := hchunk n rfl
        simp only [accepts, Option.elim_some]
        omega
  room_add held n := Nat.sub_add_eq limit held n

/-- Behind calls that take nothing there is no room, whatever the limit is. -/
theorem bounded_stuck (limit : Option Nat) : (Sink.limited limit (some 0)).Bounded fun _ => 0 where
  accepts_le_room held offered := by
    simp only [accepts, Option.elim_some]
    omega
  accepts_pos held offered _ hroom := absurd hroom (Nat.lt_irrefl 0)
  room_add _ n := (Nat.zero_sub n).symm

end Sink

/-! ## Lines -/

theorem encode_lineFeed : Text.encode "\n" = [0x0A] := by decide

theorem length_encode_line (line : String) :
    (Text.encode (line ++ "\n")).length = (Text.encode line).length + 1 := by
  rw [Text.encode_append, encode_lineFeed, List.length_append, List.length_singleton]

namespace Console

theorem write_of_roomy {c : Console} (hs : c.sink.Roomy) (bytes : List UInt8) :
    c.write bytes = (.ok (), { c with content := c.content ++ bytes }) := by
  rw [write, hs.takes.acceptsWithin (Nat.le_refl _)]
  simp

theorem writeLine_of_roomy {c : Console} (hs : c.sink.Roomy) (line : String) :
    c.writeLine line
      = (c.flush, { c with content := c.content ++ Text.encode (line ++ "\n") }) := by
  rw [writeLine, write_of_roomy hs]
  dsimp only
  rw [write_of_roomy (show Sink.Roomy { c with content := c.content ++ _ }.sink from hs),
    Text.encode_append, List.append_assoc]
  rfl

/-- A report behind a roomy sink leaves its line, and only a flush that fails is told to the log. -/
theorem report_of_roomy {c : Console} (hs : c.sink.Roomy) (line : String) :
    c.report line = ({ c with content := c.content ++ Text.encode (line ++ "\n") },
      match c.flush with
      | .ok () => []
      | .error e => [.unwritten e.message]) := by
  rw [report, if_neg hs.not_poisoned, writeLine_of_roomy hs]
  cases c.flush <;> rfl

/-- The console without a limit never complains. -/
theorem report_unlimited (content : List UInt8) (line : String) :
    (Console.mk .unlimited content).report line
      = (⟨.unlimited, content ++ Text.encode (line ++ "\n")⟩, []) :=
  report_of_roomy (c := ⟨.unlimited, content⟩) Sink.roomy_unlimited line

/-- The one that cannot be flushed always does, though it gets every line. -/
theorem report_unflushable (content : List UInt8) (line : String) :
    (Console.mk .unflushable content).report line
      = (⟨.unflushable, content ++ Text.encode (line ++ "\n")⟩,
        [.unwritten WriteError.notFlushed.message]) :=
  report_of_roomy (c := ⟨.unflushable, content⟩) Sink.roomy_unflushable line

theorem report_poisoned (content : List UInt8) (line : String) :
    (Console.mk .poisoned content).report line = (⟨.poisoned, content⟩, [.dropped line]) :=
  if_pos rfl

/-! ## Lines behind a limit -/

section
variable {c : Console} {room : Nat → Nat}

theorem write_of_bounded (hs : c.sink.Bounded room) (bytes : List UInt8) :
    c.write bytes = (if room c.content.length < bytes.length then .error .full else .ok (),
      { c with content := c.content ++ bytes.take (room c.content.length) }) := by
  have hcut : min (room c.content.length) bytes.length < bytes.length
      ↔ room c.content.length < bytes.length := by omega
  rw [write, hs.takes.acceptsWithin (Nat.le_refl _), Nat.min_comm, ← List.take_eq_take_min]
  simp only [hcut]

/-- If the line does not fit, its line feed is not tried; but then there is no room left, and trying
would have left nothing. -/
theorem writeLine_of_bounded (hs : c.sink.Bounded room) (line : String) :
    c.writeLine line =
      (if room c.content.length < (Text.encode (line ++ "\n")).length then .error .full
        else c.flush,
      { c with content := c.content ++
          (Text.encode (line ++ "\n")).take (room c.content.length) }) := by
  rw [writeLine, write_of_bounded hs, length_encode_line, Text.encode_append, encode_lineFeed]
  by_cases hline : room c.content.length < (Text.encode line).length
  · rw [if_pos hline, if_pos (by omega), List.take_append_of_le_length (by omega)]
  · have hrest : room (c.content ++ Text.encode line).length
        = room c.content.length - (Text.encode line).length := by
      rw [List.length_append, hs.room_add]
    rw [if_neg hline, List.take_of_length_le (Nat.not_lt.mp hline)]
    dsimp only
    rw [write_of_bounded (c := { c with content := c.content ++ _ }) hs, List.length_singleton,
      hrest, List.take_append, List.take_of_length_le (Nat.not_lt.mp hline), List.append_assoc]
    by_cases hfeed : room c.content.length - (Text.encode line).length < 1
    · rw [if_pos hfeed, if_pos (by omega)]
    · rw [if_neg hfeed, if_neg (by omega)]
      rfl

end

/-- A line is cut off where the room ends, and the log is told so. -/
theorem report_limited {limit chunk : Option Nat} {room : Nat → Nat}
    (hs : (Sink.limited limit chunk).Bounded room) (content : List UInt8) (line : String) :
    (Console.mk (.limited limit chunk) content).report line =
      (⟨.limited limit chunk,
        content ++ (Text.encode (line ++ "\n")).take (room content.length)⟩,
      if room content.length < (Text.encode (line ++ "\n")).length
        then [.unwritten WriteError.full.message] else []) := by
  rw [report, if_neg (by rintro ⟨⟩), writeLine_of_bounded (c := ⟨_, content⟩) hs]
  by_cases hcut : room content.length < (Text.encode (line ++ "\n")).length
  · rw [if_pos hcut, if_pos hcut]
  · rw [if_neg hcut, if_neg hcut]
    rfl

theorem grown_nil (c : Console) : c = { c with content := c.content ++ [] } := by
  rw [List.append_nil]

end Console

/-! ## What becomes of a line -/

/-- A line that is reported: the console before and after it, and what the log is told. -/
inductive Reported (line : String) : Console → Console → List Event → Prop
  | unlimited {content : List UInt8} :
      Reported line ⟨.unlimited, content⟩ ⟨.unlimited, content ++ Text.encode (line ++ "\n")⟩ []
  | unflushed {content : List UInt8} :
      Reported line ⟨.unflushable, content⟩ ⟨.unflushable, content ++ Text.encode (line ++ "\n")⟩
        [⟨.warn, .server, "Failed to write diagnostic: flush failed", []⟩]
  /-- The limit, if there is one, leaves room for the line and its line feed. -/
  | fitting {limit chunk : Option Nat} {content : List UInt8} : chunk ≠ some 0 →
      (∀ n ∈ limit, content.length + (Text.encode (line ++ "\n")).length ≤ n) →
      Reported line ⟨.limited limit chunk, content⟩
        ⟨.limited limit chunk, content ++ Text.encode (line ++ "\n")⟩ []
  | cut {limit : Nat} {chunk : Option Nat} {content : List UInt8} : chunk ≠ some 0 →
      limit < content.length + (Text.encode (line ++ "\n")).length →
      Reported line ⟨.limited (some limit) chunk, content⟩
        ⟨.limited (some limit) chunk,
          content ++ (Text.encode (line ++ "\n")).take (limit - content.length)⟩
        [⟨.warn, .server, "Failed to write diagnostic: sink full", []⟩]
  /-- No call takes anything. -/
  | stuck {limit : Option Nat} {content : List UInt8} :
      Reported line ⟨.limited limit (some 0), content⟩ ⟨.limited limit (some 0), content⟩
        [⟨.warn, .server, "Failed to write diagnostic: sink full", []⟩]
  | dropped {content : List UInt8} :
      Reported line ⟨.poisoned, content⟩ ⟨.poisoned, content⟩
        [⟨.warn, .server, "Diagnostic sink poisoned, dropped: " ++ line, []⟩]

theorem reported_report (c : Console) (line : String) :
    Reported line c (c.report line).1 (c.report line).2 := by
  have hline : 0 < (Text.encode (line ++ "\n")).length := by
    rw [length_encode_line]
    exact Nat.succ_pos _
  obtain ⟨sink, content⟩ := c
  cases sink with
  | unlimited =>
      rw [Console.report_unlimited]
      exact .unlimited
  | unflushable =>
      rw [Console.report_unflushable]
      exact .unflushed
  | limited limit chunk =>
      by_cases hstuck : chunk = some 0
      · subst hstuck
        rw [Console.report_limited (Sink.bounded_stuck limit), if_pos hline, List.take_zero,
          List.append_nil]
        exact .stuck
      · have hchunk : ∀ n ∈ chunk, 0 < n := fun n hn =>
          Nat.pos_of_ne_zero fun hzero => hstuck (hzero ▸ hn)
        cases limit with
        | none =>
            rw [Console.report_of_roomy (Sink.roomy_limited hchunk)]
            exact .fitting hstuck nofun
        | some limit =>
            rw [Console.report_limited (Sink.bounded_limited hchunk)]
            by_cases hcut : limit < content.length + (Text.encode (line ++ "\n")).length
            · rw [if_pos (by omega)]
              exact .cut hstuck hcut
            · rw [if_neg (by omega), List.take_of_length_le (by omega)]
              exact .fitting hstuck fun n hn => Option.some.inj hn ▸ Nat.not_lt.mp hcut
  | poisoned =>
      rw [Console.report_poisoned]
      exact .dropped

/-- The console before leaves no choice. -/
theorem Reported.unique {line : String} {before after after' : Console}
    {warnings warnings' : List Event} (h : Reported line before after warnings)
    (h' : Reported line before after' warnings') : after = after' ∧ warnings = warnings' := by
  cases h with
  | unlimited => cases h'; exact ⟨rfl, rfl⟩
  | unflushed => cases h'; exact ⟨rfl, rfl⟩
  | fitting hchunk hfits =>
      cases h' with
      | fitting => exact ⟨rfl, rfl⟩
      | cut _ hcut => exact absurd (hfits _ rfl) (Nat.not_le.mpr hcut)
      | stuck => exact absurd rfl hchunk
  | cut hchunk hcut =>
      cases h' with
      | fitting _ hfits => exact absurd (hfits _ rfl) (Nat.not_le.mpr hcut)
      | cut => exact ⟨rfl, rfl⟩
      | stuck => exact absurd rfl hchunk
  | stuck =>
      cases h' with
      | fitting hchunk => exact absurd rfl hchunk
      | cut hchunk => exact absurd rfl hchunk
      | stuck => exact ⟨rfl, rfl⟩
  | dropped => cases h'; exact ⟨rfl, rfl⟩

theorem reported_iff {line : String} {before after : Console} {warnings : List Event} :
    Reported line before after warnings ↔
      after = (before.report line).1 ∧ warnings = (before.report line).2 := by
  refine ⟨fun h => h.unique (reported_report before line), ?_⟩
  rintro ⟨rfl, rfl⟩
  exact reported_report before line

/-- What has arrived is the beginning of the line, and nothing else has changed. -/
theorem Reported.grown {line : String} {before after : Console} {warnings : List Event}
    (h : Reported line before after warnings) :
    ∃ grown, grown <+: Text.encode (line ++ "\n") ∧
      after = { before with content := before.content ++ grown } := by
  cases h with
  | unlimited => exact ⟨_, List.prefix_refl _, rfl⟩
  | unflushed => exact ⟨_, List.prefix_refl _, rfl⟩
  | fitting => exact ⟨_, List.prefix_refl _, rfl⟩
  | cut => exact ⟨_, List.take_prefix _ _, rfl⟩
  | stuck => exact ⟨[], List.nil_prefix, Console.grown_nil _⟩
  | dropped => exact ⟨[], List.nil_prefix, Console.grown_nil _⟩

namespace Console

/-- A report adds the beginning of its line, and nothing else. -/
theorem report_grown (c : Console) (line : String) :
    ∃ grown, grown <+: Text.encode (line ++ "\n") ∧
      (c.report line).1 = { c with content := c.content ++ grown } :=
  (reported_iff.mpr ⟨rfl, rfl⟩).grown

theorem report_sink (c : Console) (line : String) : (c.report line).1.sink = c.sink := by
  obtain ⟨grown, -, hreport⟩ := c.report_grown line
  rw [hreport]

end Console

end StubHttp
