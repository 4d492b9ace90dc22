/-
# Lines of a text

`str.splitlines`, which breaks at more characters than those that a text file has line ends for,
and the translation of line ends when a text file is read.

A text without carriage returns is split behind any of its breaks into two texts that are split
alone (`splitlines_append`); all that is known here about lines follows from that.
-/
import ZtPlanet.Python.Text

namespace ZtPlanet.Python

/-- How a text file is read: `\r\n` and `\r` are read as `\n`. -/
def universalNewlines : PyStr → PyStr
  | [] => []
  | [c] => if c = ch '\r' then [ch '\n'] else [c]
  | c :: d :: rest =>
    if c = ch '\r' then
      if d = ch '\n' then ch '\n' :: universalNewlines rest
      else ch '\n' :: universalNewlines (d :: rest)
    else c :: universalNewlines (d :: rest)

theorem universalNewlines_eq : ∀ {s : PyStr}, ch '\r' ∉ s → universalNewlines s = s
  | [], _ => rfl
  | [c], h => by
    have hc : c ≠ ch '\r' := fun hc => h (hc ▸ List.mem_singleton_self c)
    exact if_neg hc
  | c :: d :: rest, h => by
    have hc : c ≠ ch '\r' := fun hc => h (hc ▸ List.mem_cons_self)
    have ih := universalNewlines_eq fun hmem => h (List.mem_cons_of_mem c hmem)
    rw [universalNewlines, if_neg hc, ih]

/-! ## Breaks other than a carriage return -/

theorem splitlinesFrom_cons {line : PyStr} {c : CodePoint} (hc : c ≠ ch '\r') (s : PyStr) :
    splitlinesFrom line (c :: s) =
      if isLineBreak c then line.reverse :: splitlinesFrom [] s
      else splitlinesFrom (c :: line) s := by
  have hval : c.val ≠ 13 := fun h => hc (Fin.ext h)
  rw [splitlinesFrom]
  exact fun _ _ h => absurd h hval

theorem splitlinesFrom_append {p : PyStr} {c : CodePoint} (hp : ch '\r' ∉ p) (hc : c ≠ ch '\r')
    (hbreak : isLineBreak c = true) (s line : PyStr) :
    splitlinesFrom line (p ++ c :: s) = splitlinesFrom line (p ++ [c]) ++ splitlines s := by
  induction p generalizing line with
  | nil =>
    rw [List.nil_append, List.nil_append, splitlinesFrom_cons hc, splitlinesFrom_cons hc,
      if_pos hbreak, if_pos hbreak]
    rfl
  | cons d p ih =>
    have hd : d ≠ ch '\r' := fun h => hp (h ▸ List.mem_cons_self)
    have hrest : ch '\r' ∉ p := fun h => hp (List.mem_cons_of_mem d h)
    rw [List.cons_append, List.cons_append, splitlinesFrom_cons hd, splitlinesFrom_cons hd,
      ih hrest, ih hrest]
    split
    · rfl
    · rfl

/-- **The lines on both sides of a break are those of the two texts.** -/
theorem splitlines_append {p : PyStr} {c : CodePoint} (hp : ch '\r' ∉ p) (hc : c ≠ ch '\r')
    (hbreak : isLineBreak c = true) (s : PyStr) :
    splitlines (p ++ c :: s) = splitlines (p ++ [c]) ++ splitlines s :=
  splitlinesFrom_append hp hc hbreak s []

theorem splitlinesFrom_line {p : PyStr} (hp : ∀ d ∈ p, isLineBreak d = false) (line : PyStr) :
    splitlinesFrom line (p ++ [ch '\n']) = [line.reverse ++ p] := by
  induction p generalizing line with
  | nil =>
    rw [List.nil_append, splitlinesFrom_cons (by decide), if_pos (by decide), List.append_nil]
    rfl
  | cons d p ih =>
    have hd := hp d (by simp)
    have hne : d ≠ ch '\r' := by
      rintro rfl
      exact absurd hd (by decide)
    rw [List.cons_append, splitlinesFrom_cons hne, if_neg (by simp [hd]),
      ih fun e he => hp e (List.mem_cons_of_mem d he)]
    simp

/-- A text without breaks is one line. -/
theorem splitlines_line {p : PyStr} (hp : ∀ d ∈ p, isLineBreak d = false) :
    splitlines (p ++ [ch '\n']) = [p] := splitlinesFrom_line hp []

end ZtPlanet.Python
