import StubHttp.Http.Connection
import StubHttp.Proofs.Outcome

/-!
# Answers that are settled

The server reads from a client until what it has decides the answer, and may
have read any number of characters beyond that (`isSettled`). That it does not
matter how many these were is a property of the readers of a head: none of them
looks at more text than it needs. A reader that has not run out of text finds in
a longer text the same, and leaves so much more of it (`Settled`). This holds of
each reader, is kept by putting readers one after the other (`Settled.bind`),
and so holds of the head as a whole (`Head.settled_read`) and of the answer
(`serveConnection_of_isSettled`).
-/

namespace StubHttp.Http

/-- What is found in a text and what is found in a longer one: unless the first has been too short
to tell, the same, except that there is more left over. -/
def Settled {α : Type} (more : α → α) (found found' : Except Stop α) : Prop :=
  found ≠ .error .incomplete → found' = found.map more

namespace Settled

variable {α β : Type} {more : α → α} {more' : β → β}

theorem incomplete {found' : Except Stop α} : Settled more (.error .incomplete) found' :=
  fun h => absurd rfl h

theorem error (stop : Stop) : Settled more (.error stop) (.error stop) :=
  fun _ => rfl

theorem ok (a : α) : Settled more (.ok a) (.ok (more a)) :=
  fun _ => rfl

theorem bind {found found' : Except Stop α} {next : α → Except Stop β}
    (h : Settled more found found') (hnext : ∀ a, Settled more' (next a) (next (more a))) :
    Settled more' (found >>= next) (found' >>= next) := by
  cases found with
  | error stop =>
      cases stop with
      | incomplete => exact incomplete
      | malformed => rw [h nofun]; exact error _
      | tooManyHeaders => rw [h nofun]; exact error _
  | ok a =>
      rw [h nofun]
      exact hnext a

end Settled

/-! ## The readers of a head -/

section
variable (extra : List Char)

theorem settled_expect : ∀ word cs : List Char,
    Settled (· ++ extra) (expect word cs) (expect word (cs ++ extra))
  | [], cs => .ok cs
  | _ :: _, [] => .incomplete
  | w :: word, c :: cs => by
      rw [List.cons_append, expect, expect]
      split
      · exact settled_expect word cs
      · exact .error _

theorem settled_endOfLine (cs : List Char) :
    Settled (· ++ extra) (endOfLine cs) (endOfLine (cs ++ extra)) := by
  cases cs with
  | nil => exact .incomplete
  | cons c cs =>
      rw [List.cons_append, endOfLine, endOfLine]
      split
      · exact .ok cs
      split
      · exact settled_expect extra ['\n'] cs
      · exact .error _

/-- A run of characters that something follows is no longer in a longer text. -/
theorem span_append_of_dropWhile_ne_nil {p : Char → Bool} {cs : List Char}
    (h : cs.dropWhile p ≠ []) :
    (cs ++ extra).takeWhile p = cs.takeWhile p ∧
      (cs ++ extra).dropWhile p = cs.dropWhile p ++ extra := by
  have hlength : (cs.takeWhile p).length ≠ cs.length := by
    intro heq
    have hsplit := congrArg List.length (List.takeWhile_append_dropWhile (p := p) (l := cs))
    rw [List.length_append, heq] at hsplit
    exact h (List.length_eq_zero_iff.mp (by omega))
  rw [List.takeWhile_append, List.dropWhile_append, if_neg hlength, if_neg (by simpa using h)]
  exact ⟨rfl, rfl⟩

theorem settled_upTo (mark : Char) (belongs : Char → Bool) (cs : List Char) :
    Settled (Prod.map id (· ++ extra)) (upTo mark belongs cs)
      (upTo mark belongs (cs ++ extra)) := by
  by_cases hend : cs.dropWhile belongs = []
  · simp only [upTo, hend]
    exact .incomplete
  · obtain ⟨hrun, hrest⟩ := span_append_of_dropWhile_ne_nil extra hend
    obtain ⟨c, rest, hcons⟩ := List.exists_cons_of_ne_nil hend
    simp only [upTo, hrun, hrest, hcons, List.cons_append]
    split
    · exact .error _
    · exact .ok (cs.takeWhile belongs, rest)

theorem settled_skipEmptyLines (cs : List Char) :
    Settled (· ++ extra) (skipEmptyLines cs) (skipEmptyLines (cs ++ extra)) := by
  fun_induction skipEmptyLines cs with
  | case1 => exact .incomplete
  | case2 cs ih => exact ih
  | case3 cs ih => exact ih
  | case4 => exact .incomplete
  | case5 c cs hc =>
      rw [List.cons_append, List.cons_append, skipEmptyLines]
      · exact .error _
      · exact hc
  | case6 c cs hfeed _ hend hreturn =>
      have hother : c ≠ '\r' := fun hc => by
        cases cs with
        | nil => exact hend hc rfl
        | cons d cs => exact hreturn d cs hc rfl
      rw [List.cons_append, skipEmptyLines]
      · exact .ok (c :: cs)
      · exact hfeed
      · exact fun _ hc => absurd hc hother
      · exact fun hc => absurd hc hother
      · exact fun _ _ hc => absurd hc hother

theorem settled_readVersion (cs : List Char) :
    Settled (Prod.map id (· ++ extra)) (readVersion cs) (readVersion (cs ++ extra)) := by
  refine .bind (settled_expect extra _ cs) fun rest => ?_
  cases rest with
  | nil => exact .incomplete
  | cons c rest =>
      dsimp only [List.cons_append]
      split
      · exact .ok (_, rest)
      split
      · exact .ok (_, rest)
      · exact .error _

theorem settled_readHeader (cs : List Char) :
    Settled (Prod.map id (· ++ extra)) (readHeader cs) (readHeader (cs ++ extra)) := by
  refine .bind (settled_upTo extra ':' isTokenChar cs) fun ⟨name, rest⟩ => ?_
  dsimp only [Prod.map_apply, id]
  by_cases hend : rest.dropWhile isValueChar = []
  · rw [hend]
    exact .incomplete
  · obtain ⟨hvalue, hrest⟩ := span_append_of_dropWhile_ne_nil extra hend
    rw [hvalue, hrest]
    exact .bind (settled_endOfLine extra _) fun rest => .ok (_, rest)

theorem settled_readHeaders : ∀ (n : Nat) (cs : List Char),
    Settled (Prod.map id (· ++ extra)) (readHeaders n cs) (readHeaders n (cs ++ extra))
  | _, [] => by
      rw [readHeaders]
      exact .incomplete
  | 0, c :: cs => by
      rw [List.cons_append, readHeaders, readHeaders]
      split
      · exact .bind (settled_endOfLine extra (c :: cs)) fun rest => .ok (_, rest)
      · exact .error _
  | n + 1, c :: cs => by
      rw [List.cons_append, readHeaders, readHeaders]
      split
      · exact .bind (settled_endOfLine extra (c :: cs)) fun rest => .ok (_, rest)
      · refine .bind (settled_readHeader extra (c :: cs)) fun ⟨header, rest⟩ => ?_
        exact .bind (settled_readHeaders n rest) fun ⟨headers, left⟩ => .ok (_, left)

theorem Head.settled_read (cs : List Char) :
    Settled (Prod.map id (· ++ extra)) (Head.read cs) (Head.read (cs ++ extra)) := by
  refine .bind (settled_skipEmptyLines extra cs) fun cs => ?_
  refine .bind (settled_upTo extra ' ' isTokenChar cs) fun ⟨name, cs⟩ => ?_
  refine .bind (settled_upTo extra ' ' isUriChar cs) fun ⟨uri, cs⟩ => ?_
  refine .bind (settled_readVersion extra cs) fun ⟨version, cs⟩ => ?_
  refine .bind (settled_endOfLine extra cs) fun cs => ?_
  refine .bind (settled_readHeaders extra maxHeaders cs) fun ⟨headers, rest⟩ => ?_
  dsimp only [Prod.map_apply, id]
  split
  · exact .ok (_, rest)
  · exact .error _

end

/-! ## The answer -/

/-- A text that is not the beginning of a word, or already all of it, begins with the word now or
never. -/
theorem isPrefixOf_append_of_not_isPrefixOf {word cs : List Char}
    (h : cs = word ∨ cs.isPrefixOf word = false) (extra : List Char) :
    word.isPrefixOf (cs ++ extra) = word.isPrefixOf cs := by
  rw [Bool.eq_iff_iff, List.isPrefixOf_iff_prefix, List.isPrefixOf_iff_prefix]
  refine ⟨fun hword => ?_, fun hword => hword.trans (List.prefix_append cs extra)⟩
  rcases List.prefix_or_prefix_of_prefix hword (List.prefix_append cs extra) with hword | hcs
  · exact hword
  · rcases h with rfl | h
    · exact List.prefix_refl cs
    · rw [List.isPrefixOf_iff_prefix.mpr hcs] at h
      cases h

/-- Once the answer is settled, it makes no difference what else the client has sent. -/
theorem serveConnection_of_isSettled {raw : String} (h : isSettled raw = true) (c : Catalog)
    (console : Console) (extra : String) :
    serveConnection c console (raw ++ extra) = serveConnection c console raw := by
  have hread := Head.settled_read extra.toList raw.toList
  rw [← String.toList_append] at hread
  rw [isSettled] at h
  rw [serveConnection, serveConnection]
  cases hraw : Head.read raw.toList with
  | ok found => rw [hread (by rw [hraw]; nofun), hraw]; rfl
  | error stop =>
      cases stop with
      | incomplete => rw [hraw] at h; cases h
      | tooManyHeaders => rw [hread (by rw [hraw]; nofun), hraw]; rfl
      | malformed =>
          rw [hread (by rw [hraw]; nofun), hraw]
          -- A malformed head may yet be the beginning of another protocol, which gets no answer.
          simp only [hraw, Bool.or_eq_true, decide_eq_true_eq, Bool.not_eq_true'] at h
          simp only [Except.map, String.toList_append, isPrefixOf_append_of_not_isPrefixOf h]

end StubHttp.Http
