import SchemaMarkup.Proofs.Markup.LineTokens
import SchemaMarkup.Proofs.Markup.ScannedLines

/-! Strings that are open where a text ends. What comes after a text is scanned by itself as soon as
a line feed comes first and no string takes it in, and a comment at the end of a text changes none
of its tokens but for the comment of its last line.
-/

namespace SchemaMarkup.Markup

open Text Token

/-- The string that is open after a text, which goes on from a quoting or from inside of a comment.
A string of one line ends with its line, and a comment opens none.
-/
def openAfter : (comment : Bool) → Quoting → List Char → Quoting
  | _, q, [] => q
  | true, q, c :: cs => openAfter (c ≠ '\n') q cs
  | false, .plain, '\'' :: '\'' :: '\'' :: cs => openAfter false .block cs
  | false, .block, '\'' :: '\'' :: '\'' :: cs => openAfter false .plain cs
  | false, .quoted q, '\\' :: _ :: cs => openAfter false (.quoted q) cs
  | false, .plain, '/' :: '/' :: cs => openAfter true .plain cs
  | false, .block, _ :: cs => openAfter false .block cs
  | false, .quoted q, c :: cs =>
    if c = q ∨ c = '\n' then openAfter false .plain cs else openAfter false (.quoted q) cs
  | false, .plain, c :: cs =>
    if Literal.isQuote c then openAfter false (.quoted c) cs else openAfter false .plain cs

/-- Whether a line ends before a text. -/
def LineEnd (after : List Char) : Prop :=
  after = [] ∨ ∃ rest, after = '\n' :: rest

/-- Whether a text ends outside of all strings. -/
def EndsOutside (cs : List Char) : Prop :=
  openAfter false .plain cs = .plain

instance (cs : List Char) : Decidable (EndsOutside cs) :=
  inferInstanceAs (Decidable (_ = _))

section

variable {q q' : Quoting} {w rest cs r after : List Char} {k : Option String}

-----------------------------------------------------------------------------------------
-- The open string step by step
-----------------------------------------------------------------------------------------

theorem Step.openAfter (h : Step endsText q w rest q')
    : openAfter false q (w ++ rest) = Markup.openAfter false q' rest := by
  cases h with
  | openBlock => rfl
  | closeBlock => rfl
  | inBlock open_ =>
      rw [List.singleton_append, Markup.openAfter]
      exact of_not_triple open_
  | openQuote quote single =>
      rw [List.singleton_append, Markup.openAfter, if_pos quote]
      · exact of_not_triple single
      · rintro cs rfl
        cases quote
  | @closeQuote q quote =>
      rw [List.singleton_append, Markup.openAfter, if_pos (.inl rfl)]
      exact fun _ _ he => absurd he (ne_of_isQuote quote).1
  | escaped => rfl
  | inQuote open_ line bare =>
      rw [List.singleton_append, Markup.openAfter, if_neg (not_or.mpr ⟨open_, line⟩)]
      intro d ds hc hr
      rw [bare hc] at hr
      cases hr
  | plain unquoted goesOn noComment =>
      rw [List.singleton_append, Markup.openAfter, if_neg (by simp [unquoted])]
      · rintro ds rfl
        cases unquoted
      · rintro ds rfl rfl
        exact noComment rfl rfl

/-- What ends a line opens no string. -/
theorem openAfter_ended {c : Char} (stop : endsText c = true)
    : openAfter false .plain (c :: cs) = openAfter false .plain cs := by
  simp only [endsText, Bool.or_eq_true, decide_eq_true_eq] at stop
  rcases stop with (rfl | rfl) | rfl <;> rfl

/-- No string is open in a comment, by induction. -/
theorem openAfter_comment {d : List Char} (one : '\n' ∉ d)
    : openAfter false .plain ('/' :: '/' :: d) = .plain
      ∧ openAfter false .plain ('/' :: '/' :: (d ++ '\n' :: cs)) = openAfter false .plain cs := by
  have inside : openAfter true .plain d = .plain
      ∧ openAfter true .plain (d ++ '\n' :: cs) = openAfter false .plain cs := by
    induction d with
    | nil => exact ⟨rfl, rfl⟩
    | cons c d ih =>
        rw [List.mem_cons, not_or] at one
        simpa [openAfter, Ne.symm one.1] using ih one.2
  exact inside

theorem openAfter_feed {quote : Char}
    : openAfter false (.quoted quote) ('\n' :: cs) = openAfter false .plain cs := by
  rw [openAfter, if_pos (.inr rfl)]
  simp

-----------------------------------------------------------------------------------------
-- The last line of a text
-----------------------------------------------------------------------------------------

/-- What is left of a text that cannot be read before it is known how the text goes on: a comment
on its last line, or a backslash that keeps what follows it in a string.
-/
inductive Tail : Quoting → List Char → Prop
  | nothing (q : Quoting) : Tail q []
  | comment {d : List Char} (one : '\n' ∉ d) : Tail .plain ('/' :: '/' :: d)
  | backslash {quote : Char} (proper : Literal.isQuote quote = true) : Tail (.quoted quote) ['\\']

/-- A step is taken whatever follows that goes on neither with a quote nor with a slash, but for a
backslash with which a text ends.
-/
theorem Step.extend (h : Step endsText q w rest q') (proper : Proper q)
    : (∀ after, Apart after → Step endsText q w (rest ++ after) q')
      ∨ rest = [] ∧ Tail q w := by
  have before (closed : ∀ quote, q' = .quoted quote → w.getLast? ≠ some '\\')
      {after : List Char} (apart : Apart after)
      : Step endsText q w (rest ++ after) q' :=
    Step.before (by rwa [List.append_nil]) apart fun _ _ => closed
  cases h with
  | openBlock => exact .inl fun _ => before nofun
  | closeBlock => exact .inl fun _ => before nofun
  | inBlock => exact .inl fun _ => before nofun
  | openQuote quote =>
      refine .inl fun _ => before fun _ _ hb => ?_
      exact (ne_of_isQuote quote).1 (Option.some.inj hb)
  | closeQuote => exact .inl fun _ => before nofun
  | escaped q c => exact .inl fun after _ => .escaped q c (rest ++ after)
  | @inQuote quote c _ open_ line bare =>
      by_cases hc : c = '\\'
      · subst hc
        exact .inr ⟨bare rfl, .backslash (proper quote rfl)⟩
      · exact .inl fun after _ => .inQuote open_ line fun hb => absurd hb hc
  | plain => exact .inl fun _ => before nofun

/-- Whether a text that follows an unfinished line comes down to some tokens and another unfinished
line, whatever follows the text.
-/
structure ComesDown (q : Quoting) (r : List Char) (k : Option String) (cs : List Char)
    (ts : List Token) (q' : Quoting) (r' : List Char) (k' : Option String) (tail : List Char)
    : Prop where
  rest : Tail q' tail
  scan {after : List Char} (apart : Apart after)
    : scannedFrom q r k (cs ++ after) = ts ++ scannedFrom q' r' k' (tail ++ after)
  string {after : List Char} (apart : Apart after)
    : openAfter false q (cs ++ after) = openAfter false q' (tail ++ after)

/-- What a text leaves to be read comes down to what the text itself does. -/
theorem ComesDown.prepend {q₁ : Quoting} {r₁ r' tail : List Char} {k₁ k' : Option String}
    {ts : List Token} (h : ComesDown q₁ r₁ k₁ rest ts q' r' k' tail) (ts₁ : List Token)
    (scan : ∀ after, Apart after →
      scannedFrom q r k (cs ++ after) = ts₁ ++ scannedFrom q₁ r₁ k₁ (rest ++ after))
    (string : ∀ after, Apart after →
      openAfter false q (cs ++ after) = openAfter false q₁ (rest ++ after))
    : ComesDown q r k cs (ts₁ ++ ts) q' r' k' tail where
  rest := h.rest
  scan apart := by rw [scan _ apart, h.scan apart, List.append_assoc]
  string apart := by rw [string _ apart, h.string apart]

/-- A comment goes on to the end of its line. -/
theorem scanned_comment_line {d : List Char} (one : '\n' ∉ d) (lineEnd : LineEnd after)
    : scanned r k ('/' :: '/' :: (d ++ after))
      = scanned r (commentText ('/' :: '/' :: d)) after := by
  have all : ∀ c ∈ d, decide (c ≠ '\n') = true := fun c hc =>
    decide_eq_true fun he => one (he ▸ hc)
  rw [scanned_comment, List.takeWhile_append_of_pos all, List.dropWhile_append_of_pos all]
  rcases lineEnd with rfl | ⟨rest, rfl⟩ <;> simp

/-- What ends a line is read with it. -/
theorem scanned_ended {c : Char} (stop : endsText c = true) (r : List Char) (k : Option String)
    : ∃ ts, ∀ cs, scanned r k (c :: cs) = ts ++ scanned [] none cs := by
  simp only [endsText, Bool.or_eq_true, decide_eq_true_eq] at stop
  rcases stop with (rfl | rfl) | rfl
  · refine ⟨finished r k ++ [.opening 0], fun cs => ?_⟩
    rw [scanned_opening, List.append_assoc, List.singleton_append]
  · refine ⟨finished r k ++ [.closing 0], fun cs => ?_⟩
    rw [scanned_closing, List.append_assoc, List.singleton_append]
  · exact ⟨finished r k, fun cs => scanned_newline⟩

/-- Every text comes down to its last line, by induction on what is left of it. -/
theorem exists_comesDown (proper : Proper q) (r : List Char) (k : Option String) (cs : List Char)
    : ∃ ts q' r' k' tail, ComesDown q r k cs ts q' r' k' tail := by
  induction hn : cs.length using Nat.strong_induction_on generalizing q r k cs with
  | _ n ih =>
      subst hn
      have itself (rest : Tail q cs)
          : ∃ ts q' r' k' tail, ComesDown q r k cs ts q' r' k' tail :=
        ⟨[], q, r, k, cs, rest, fun _ => rfl, fun _ => rfl⟩
      have later {q₁ : Quoting} {r₁ : List Char} {k₁ : Option String} (rest : List Char)
          (ts₁ : List Token) (hl : rest.length < cs.length) (proper : Proper q₁)
          (scan : ∀ after, Apart after →
            scannedFrom q r k (cs ++ after) = ts₁ ++ scannedFrom q₁ r₁ k₁ (rest ++ after))
          (string : ∀ after, Apart after →
            openAfter false q (cs ++ after) = openAfter false q₁ (rest ++ after))
          : ∃ ts q' r' k' tail, ComesDown q r k cs ts q' r' k' tail := by
        obtain ⟨ts, q', r', k', tail, h⟩ := ih _ hl proper r₁ k₁ rest rfl
        exact ⟨_, _, _, _, _, h.prepend ts₁ scan string⟩
      rcases stops_or_step endsText proper cs with stop | ⟨w, rest, q', rfl, step⟩
      · cases stop with
        | exhausted => exact itself (.nothing q)
        | @ended c stop rest =>
            obtain ⟨ts₁, hts⟩ := scanned_ended stop r k
            exact later rest ts₁ (by simp) proper_plain (fun after _ => hts (rest ++ after))
              fun after _ => openAfter_ended stop
        | comment rest =>
            by_cases hline : '\n' ∈ rest
            · obtain ⟨d, rest, rfl, one⟩ := List.eq_append_cons_of_mem hline
              have scan (after : List Char)
                  : scanned r k ('/' :: '/' :: (d ++ '\n' :: rest) ++ after)
                    = finished r (commentText ('/' :: '/' :: d))
                      ++ scanned [] none (rest ++ after) := by
                have followed := scanned_comment_line (r := r) (k := k) one
                  (.inr ⟨rest ++ after, rfl⟩)
                rw [scanned_newline] at followed
                simpa using followed
              refine later rest _ (by simp; omega) proper_plain (fun after _ => scan after)
                fun after _ => ?_
              simpa using (openAfter_comment one).2
            · exact itself (.comment hline)
        | feed quote rest =>
            exact later rest (finished r k) (by simp) proper_plain (fun after _ => scanned_newline)
              fun after _ => openAfter_feed
      · rcases step.extend proper with goesOn | ⟨rfl, tail⟩
        · have hless : rest.length < (w ++ rest).length := by
            have hw := List.length_pos_iff.mpr step.ne_nil
            rw [List.length_append]
            omega
          have scan (after : List Char) (apart : Apart after)
              : scannedFrom q r k (w ++ rest ++ after)
                = [] ++ scannedFrom q' (w.reverse ++ r) k (rest ++ after) := by
            rw [List.append_assoc, (goesOn after apart).scannedFrom, List.nil_append]
          refine later rest [] hless (step.proper proper) scan fun after apart => ?_
          rw [List.append_assoc, (goesOn after apart).openAfter]
        · exact itself (by rwa [List.append_nil])

-----------------------------------------------------------------------------------------
-- Texts that end outside of strings
-----------------------------------------------------------------------------------------

/-- A text that no string goes on from is scanned by itself, and so is what follows its line feed.
-/
theorem EndsOutside.scanned_append_newline (h : EndsOutside (cs ++ ['\n'])) (rest : List Char)
    : scanned [] none (cs ++ '\n' :: rest) = scanned [] none cs ++ scanned [] none rest := by
  obtain ⟨ts, q, r, k, tail, down⟩ := exists_comesDown proper_plain [] none cs
  have feed (after : List Char) : Apart ('\n' :: after) := apart_cons (by decide)
  have all : scanned [] none (cs ++ '\n' :: rest)
      = ts ++ scannedFrom q r k (tail ++ '\n' :: rest) :=
    down.scan (feed rest)
  have alone : scanned [] none cs = ts ++ scannedFrom q r k tail := by
    have hc := down.scan apart_nil
    rwa [List.append_nil, List.append_nil] at hc
  have ends : openAfter false q (tail ++ ['\n']) = .plain := (down.string (feed [])).symm.trans h
  rw [all, alone, List.append_assoc]
  congr 1
  cases down.rest with
  | nothing =>
      rw [scannedFrom_nil, ← scanned_newline]
      cases q with
      | block => cases ends
      | plain => rfl
      | quoted quote => rfl
  | comment one =>
      have alone := scanned_comment_line (r := r) (k := k) one (.inl rfl)
      have followed := scanned_comment_line (r := r) (k := k) one (.inr ⟨rest, rfl⟩)
      rw [List.append_nil] at alone
      refine followed.trans ?_
      rw [scannedFrom, alone, scanned_newline]
      exact congrArg (· ++ _) (scannedFrom_nil .plain).symm
  | backslash => cases ends

/-- A text that ends outside of strings comes down to an unfinished line, of which a comment may be
left.
-/
theorem EndsOutside.exists_lastLine (h : EndsOutside cs)
    : ∃ ts r k tail, (tail = [] ∨ ∃ d, '\n' ∉ d ∧ tail = '/' :: '/' :: d)
      ∧ ∀ after, Apart after →
        scanned [] none (cs ++ after) = ts ++ scanned r k (tail ++ after) := by
  obtain ⟨ts, q, r, k, tail, down⟩ := exists_comesDown proper_plain [] none cs
  have ends : openAfter false q tail = .plain := by
    have hs := down.string apart_nil
    rw [List.append_nil, List.append_nil] at hs
    exact hs.symm.trans h
  cases down.rest with
  | nothing =>
      rw [openAfter] at ends
      subst ends
      exact ⟨ts, r, k, [], .inl rfl, fun _ => down.scan⟩
  | @comment d one => exact ⟨ts, r, k, _, .inr ⟨d, one, rfl⟩, fun _ => down.scan⟩
  | @backslash quote proper =>
      rw [openAfter, if_neg] at ends
      · cases ends
      · exact not_or.mpr ⟨(ne_of_isQuote proper).1.symm, by decide⟩
      · nofun

theorem LineEnd.apart (h : LineEnd after)
    : Apart after := by
  rcases h with rfl | ⟨rest, rfl⟩
  · exact apart_nil
  · exact apart_cons (by decide)

/-- The end of a line finishes it. -/
theorem LineEnd.exists_scanned (h : LineEnd after)
    : ∃ ts, ∀ r k, scanned r k after = finished r k ++ ts := by
  rcases h with rfl | ⟨rest, rfl⟩
  · refine ⟨[], fun r k => ?_⟩
    rw [List.append_nil]
    exact scannedFrom_nil .plain
  · exact ⟨scanned [] none rest, fun r k => scanned_newline⟩

/-- A token with another comment. -/
def Token.recomment (comment : Option String) : Token → Token
  | .text s _ n => .text s comment n
  | t => t

/-- A finished line depends on its comment and on what is left of it without white space around. -/
theorem finished_of_trim_eq {r' : List Char} (h : trim r'.reverse = trim r.reverse)
    (k k' : Option String)
    : finished r' k' = (finished r k).map (recomment k') := by
  simp only [finished, Pending.finish, h]
  split <;> rfl

/-- A space at the end of a line is no part of its text. -/
theorem trim_space (r : List Char)
    : trim (' ' :: r).reverse = trim r.reverse := by
  obtain ⟨before, after, hb, ha, he⟩ := exists_padding r.reverse
  have hspace : ∀ c ∈ after ++ [' '], isBlank c = true :=
    List.forall_mem_append.mpr ⟨ha, List.forall_mem_singleton.mpr rfl⟩
  have hpad := (isTrimmed_trim r.reverse).trim_padded hb hspace
  rwa [← List.append_assoc, ← he, ← List.reverse_cons] at hpad

/-- A comment at the end of a line changes the comment of the token of this line, if it has one,
and nothing else.
-/
theorem EndsOutside.scanned_comment (h : EndsOutside cs) {d : List Char} (one : '\n' ∉ d)
    (lineEnd : LineEnd after)
    : ∃ ts r k k' us, scanned [] none cs = ts ++ finished r k
      ∧ scanned [] none (cs ++ after) = ts ++ finished r k ++ us
      ∧ scanned [] none (cs ++ ' ' :: '/' :: '/' :: (d ++ after))
        = ts ++ (finished r k).map (recomment k') ++ us := by
  obtain ⟨ts, r, k, tail, htail, hline⟩ := h.exists_lastLine
  obtain ⟨us, hus⟩ := lineEnd.exists_scanned
  have hnil := hline [] apart_nil
  have hafter := hline after lineEnd.apart
  have hcomment := hline (' ' :: '/' :: '/' :: (d ++ after)) (apart_cons (by decide))
  have alone (r : List Char) (k : Option String) : scanned r k [] = finished r k :=
    scannedFrom_nil .plain
  rw [List.append_nil, List.append_nil] at hnil
  rcases htail with rfl | ⟨e, oneLine, rfl⟩
  · refine ⟨ts, r, k, commentText ('/' :: '/' :: d), us, ?_, ?_, ?_⟩
    · rw [hnil, alone]
    · rw [hafter, List.nil_append, hus, List.append_assoc]
    · have hspace : scanned r k (' ' :: '/' :: '/' :: (d ++ after))
          = scanned (' ' :: r) k ('/' :: '/' :: (d ++ after)) :=
        scanned_plain rfl rfl fun hc => absurd hc (by decide)
      rw [hcomment, List.nil_append, hspace, scanned_comment_line one lineEnd, hus,
        finished_of_trim_eq (trim_space r) k, List.append_assoc]
  · refine ⟨ts, r, commentText ('/' :: '/' :: e),
      commentText ('/' :: '/' :: (e ++ ' ' :: '/' :: '/' :: d)), us, ?_, ?_, ?_⟩
    · have hline := scanned_comment_line (r := r) (k := k) oneLine (.inl rfl)
      rw [List.append_nil] at hline
      rw [hnil, hline, alone]
    · rw [hafter, List.cons_append, List.cons_append, scanned_comment_line oneLine lineEnd, hus,
        List.append_assoc]
    · have both : '\n' ∉ e ++ ' ' :: '/' :: '/' :: d := by simp [oneLine, one]
      have hboth := scanned_comment_line (r := r) (k := k) both lineEnd
      rw [List.append_assoc] at hboth
      rw [hcomment, List.append_assoc ts, ← finished_of_trim_eq rfl, ← hus]
      exact congrArg (ts ++ ·) hboth

end
end SchemaMarkup.Markup
