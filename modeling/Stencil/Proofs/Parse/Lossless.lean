import Stencil.Proofs.Node.Symbols
import Stencil.Proofs.Parse.Reading

/-!
# `Stencil.Proofs.Parse.Lossless` — no token is lost and none is made up

Which closing tokens match is said of the tokens alone: an opening token is open until a closing token
cancels it, and a closing token behind which nothing is open is unmatched (`openIfs`, `IsUnmatched`).
The tree of a reading, written back, is then the tokens without the unmatched ones, and with one closing
token at the end for each condition that was left open.

The invariant is about a reading under way: the statements so far, with the open conditions not yet
closed, are written as the matched tokens so far (`Reads.openSymbols_eq`).

## Contents
- **Matching.** `openIfs`, `IsUnmatched`, and the two parts `unmatched` and `matched` of the tokens.
- **Unfinished trees.** `openSymbols`, and what closing all conditions adds to it.
- **The invariants of a reading**, and **`parse_lossless`**.
-/

namespace Stencil

/-! ## Matching -/

/-- One token, after which the opening tokens in `opened` were open: an opening token is open from now
on, a closing token cancels the innermost that is open, or nothing if none is. -/
def openStep (opened : List Token) (t : Token) : List Token :=
  match t.kind with
  | .ifOpen => t :: opened
  | .endif => opened.tail
  | .text | .variable => opened

/-- The opening tokens that are open after some tokens, the innermost first. -/
def openIfs (tokens : List Token) : List Token :=
  tokens.foldl openStep []

/-- A closing token is unmatched if nothing is open after the tokens before it. -/
def IsUnmatched (before : List Token) (t : Token) : Prop :=
  t.kind = .endif ∧ openIfs before = []

instance (before : List Token) (t : Token) : Decidable (IsUnmatched before t) :=
  inferInstanceAs (Decidable (_ ∧ _))

/-- The unmatched closing tokens among those that come after `before`. -/
def unmatchedAfter (before : List Token) : List Token → List Token
  | [] => []
  | t :: rest =>
    if IsUnmatched before t then t :: unmatchedAfter (before ++ [t]) rest
    else unmatchedAfter (before ++ [t]) rest

/-- The tokens that come after `before`, without the unmatched closing tokens. -/
def matchedAfter (before : List Token) : List Token → List Token
  | [] => []
  | t :: rest =>
    if IsUnmatched before t then matchedAfter (before ++ [t]) rest
    else t :: matchedAfter (before ++ [t]) rest

/-- The unmatched closing tokens, in order. -/
def unmatched (tokens : List Token) : List Token :=
  unmatchedAfter [] tokens

/-- The tokens without the unmatched closing tokens. -/
def matched (tokens : List Token) : List Token :=
  matchedAfter [] tokens

theorem openIfs_concat (tokens : List Token) (t : Token) :
    openIfs (tokens ++ [t]) = openStep (openIfs tokens) t := by
  rw [openIfs, List.foldl_append]
  rfl

theorem unmatchedAfter_concat (before tokens : List Token) (t : Token) :
    unmatchedAfter before (tokens ++ [t]) =
      unmatchedAfter before tokens ++ if IsUnmatched (before ++ tokens) t then [t] else [] := by
  induction tokens generalizing before with
  | nil => simp [unmatchedAfter]
  | cons s tokens ih =>
    have happend : before ++ [s] ++ tokens = before ++ s :: tokens := by simp
    simp only [List.cons_append, unmatchedAfter, ih, happend]
    split <;> rfl

theorem matchedAfter_concat (before tokens : List Token) (t : Token) :
    matchedAfter before (tokens ++ [t]) =
      matchedAfter before tokens ++ if IsUnmatched (before ++ tokens) t then [] else [t] := by
  induction tokens generalizing before with
  | nil => simp [matchedAfter]
  | cons s tokens ih =>
    have happend : before ++ [s] ++ tokens = before ++ s :: tokens := by simp
    simp only [List.cons_append, matchedAfter, ih, happend]
    split <;> rfl

/-- An unmatched closing token at the end is one more of them. -/
theorem unmatched_concat_of_unmatched {tokens : List Token} {t : Token} (h : IsUnmatched tokens t) :
    unmatched (tokens ++ [t]) = unmatched tokens ++ [t] ∧
      matched (tokens ++ [t]) = matched tokens := by
  rw [unmatched, matched, unmatchedAfter_concat, matchedAfter_concat, List.nil_append, if_pos h,
    if_pos h, List.append_nil]
  exact ⟨rfl, rfl⟩

/-- Any other token at the end is kept. -/
theorem matched_concat_of_matched {tokens : List Token} {t : Token} (h : ¬ IsUnmatched tokens t) :
    unmatched (tokens ++ [t]) = unmatched tokens ∧
      matched (tokens ++ [t]) = matched tokens ++ [t] := by
  rw [unmatched, matched, unmatchedAfter_concat, matchedAfter_concat, List.nil_append, if_neg h,
    if_neg h, List.append_nil]
  exact ⟨rfl, rfl⟩

/-- A token that closes nothing is kept as it is. -/
theorem matched_concat_of_ne_endif {tokens : List Token} {t : Token} (h : t.kind ≠ .endif) :
    unmatched (tokens ++ [t]) = unmatched tokens ∧
      (matched (tokens ++ [t])).map Token.symbol =
        (matched tokens).map Token.symbol ++ [⟨t.kind, t.value⟩] := by
  obtain ⟨hu, hm⟩ := @matched_concat_of_matched tokens t fun hun => h hun.1
  rw [hu, hm, List.map_append, List.map_singleton, Token.symbol_of_ne_endif h]
  exact ⟨rfl, rfl⟩

/-- If nothing is unmatched, all is matched. -/
theorem matched_eq_of_unmatched_eq_nil {tokens : List Token} (h : unmatched tokens = []) :
    matched tokens = tokens := by
  suffices hafter : ∀ before, unmatchedAfter before tokens = [] →
      matchedAfter before tokens = tokens from hafter [] h
  clear h
  induction tokens with
  | nil => exact fun _ _ => rfl
  | cons t tokens ih =>
    intro before h
    rw [unmatchedAfter] at h
    by_cases hunmatched : IsUnmatched before t
    · rw [if_pos hunmatched] at h
      exact absurd h (List.cons_ne_nil t _)
    · rw [if_neg hunmatched] at h
      rw [matchedAfter, if_neg hunmatched, ih _ h]

/-! ## Unfinished trees -/

/-- What a reading under way has read, written back: the statements before each open condition and its
opening token, then the statements of the innermost block. -/
def openSymbols : List OpenBlock → List Node → List Symbol
  | [], statements => symbolsAll statements.reverse
  | block :: outer, statements =>
    openSymbols outer block.before ++ ⟨.ifOpen, block.token.value⟩ :: symbolsAll statements.reverse

/-- A statement in the innermost block is written behind all that was read before. -/
theorem openSymbols_push (opened : List OpenBlock) (statements : List Node) (node : Node) :
    openSymbols opened (node :: statements) = openSymbols opened statements ++ node.symbols := by
  cases opened with
  | nil => exact symbolsAll_reverse_cons node statements
  | cons block outer =>
    rw [openSymbols, openSymbols, symbolsAll_reverse_cons, List.append_assoc, List.cons_append]

/-- Closing the innermost condition writes one closing symbol. -/
theorem openSymbols_close (block : OpenBlock) (outer : List OpenBlock) (statements : List Node) :
    openSymbols outer (.conditional block.token.value statements.reverse :: block.before) =
      openSymbols (block :: outer) statements ++ [.closing] := by
  rw [openSymbols_push, Node.symbols, openSymbols, List.append_assoc, List.cons_append]

/-- **Closing all conditions writes one closing symbol for each of them**, and nothing else. -/
theorem symbolsAll_closeAll (opened : List OpenBlock) (statements : List Node) :
    symbolsAll (closeAll opened statements) =
      openSymbols opened statements ++ List.replicate opened.length .closing := by
  induction opened generalizing statements with
  | nil => rw [closeAll, openSymbols, List.length_nil, List.replicate_zero, List.append_nil]
  | cons block outer ih =>
    rw [closeAll, ih, openSymbols_close, List.append_assoc, List.length_cons, List.replicate_succ]
    rfl

/-- Closing plain statements over plain statements gives plain statements. -/
theorem plain_closeAll {opened : List OpenBlock} {statements : List Node}
    (hopened : ∀ block ∈ opened, Plain block.before.reverse) (hplain : Plain statements.reverse) :
    Plain (closeAll opened statements) := by
  induction opened generalizing statements with
  | nil => exact hplain
  | cons block outer ih =>
    refine ih (fun b hb => hopened b (List.mem_cons_of_mem block hb)) ?_
    rw [List.reverse_cons]
    exact (hopened block List.mem_cons_self).append (.conditional hplain .nil)

/-! ## The invariants of a reading -/

variable {ts : List Token} {p : Progress} {ds : List Diagnostic}

/-- The open conditions of a reading are the opening tokens that are open. -/
theorem Reads.opened_eq (h : Reads ts p ds) : p.opened.map OpenBlock.token = openIfs ts := by
  induction h with
  | start => rfl
  | text _ hkind ih => rw [openIfs_concat, openStep, hkind, ← ih]; rfl
  | «variable» _ hkind ih => rw [openIfs_concat, openStep, hkind, ← ih]; rfl
  | opening _ hkind ih => rw [openIfs_concat, openStep, hkind, ← ih]; rfl
  | closing _ hkind ih => rw [openIfs_concat, openStep, hkind, ← ih]; rfl
  | stray _ hkind ih => rw [openIfs_concat, openStep, hkind, ← ih]; rfl

/-- All statements of a reading are plain. -/
theorem Reads.plain (h : Reads ts p ds) :
    Plain p.statements.reverse ∧ ∀ block ∈ p.opened, Plain block.before.reverse := by
  induction h with
  | start => exact ⟨.nil, by simp [Progress.start]⟩
  | text _ _ ih =>
    rw [Progress.push, List.reverse_cons]
    exact ⟨ih.1.append (.literal .nil), ih.2⟩
  | «variable» _ _ ih =>
    rw [Progress.push, List.reverse_cons]
    exact ⟨ih.1.append (.variable .nil), ih.2⟩
  | opening _ _ ih =>
    refine ⟨.nil, ?_⟩
    intro block hblock
    rcases List.mem_cons.1 hblock with rfl | hblock
    · exact ih.1
    · exact ih.2 block hblock
  | closing _ _ ih =>
    rw [Progress.close, List.reverse_cons]
    exact ⟨(ih.2 _ List.mem_cons_self).append (.conditional ih.1 .nil),
      fun block hblock => ih.2 block (List.mem_cons_of_mem _ hblock)⟩
  | stray _ _ ih => exact ih

/-- **What was read is written back as the matched tokens**, and the reports are on the unmatched
ones. -/
theorem Reads.openSymbols_eq (h : Reads ts p ds) :
    openSymbols p.opened p.statements = (matched ts).map Token.symbol ∧
      ds = (unmatched ts).map fun t => Diagnostic.unmatchedEndif t.place := by
  induction h with
  | start => exact ⟨rfl, rfl⟩
  | text _ hkind ih =>
    obtain ⟨hu, hm⟩ := matched_concat_of_ne_endif (by rw [hkind]; decide)
    rw [hu, hm, ← ih.1, hkind, Progress.push, openSymbols_push]
    exact ⟨rfl, ih.2⟩
  | «variable» _ hkind ih =>
    obtain ⟨hu, hm⟩ := matched_concat_of_ne_endif (by rw [hkind]; decide)
    rw [hu, hm, ← ih.1, hkind, Progress.push, openSymbols_push]
    exact ⟨rfl, ih.2⟩
  | opening _ hkind ih =>
    obtain ⟨hu, hm⟩ := matched_concat_of_ne_endif (by rw [hkind]; decide)
    rw [hu, hm, ← ih.1, hkind]
    exact ⟨rfl, ih.2⟩
  | closing h hkind ih =>
    -- something is open, so the closing token has a match
    have hopen := h.opened_eq
    obtain ⟨hu, hm⟩ := matched_concat_of_matched fun hunmatched => by
      rw [hunmatched.2] at hopen
      exact absurd hopen (by simp)
    rw [hu, hm, List.map_append, ← ih.1, Progress.close, openSymbols_close, List.map_singleton,
      Token.symbol_of_endif hkind]
    exact ⟨rfl, ih.2⟩
  | stray h hkind ih =>
    have hopen := h.opened_eq
    obtain ⟨hu, hm⟩ := unmatched_concat_of_unmatched ⟨hkind, hopen.symm⟩
    rw [hu, hm, List.map_append, ← ih.2]
    exact ⟨ih.1, rfl⟩

/-- **A reading that does not stop loses no token and makes none up.**  Whatever the tokens, and
whatever was read before, there comes out a tree of plain statements.  Written back, they are the
tokens without the unmatched closing ones, and one closing token for each opening token that is
open at the end.  What is reported are the unmatched closing tokens in order, then those opening
tokens, the innermost first; and all tokens have been read. -/
theorem parse_lossless (tokens : List Token) (position : Nat) (earlier : List Diagnostic) :
    ∃ statements, Plain statements ∧
      Parser.parse ⟨tokens, false, position, earlier⟩ =
        (.ok (.block statements),
          ⟨tokens, false, tokens.length,
            earlier ++
              ((unmatched tokens).map (fun t => Diagnostic.unmatchedEndif t.place) ++
                (openIfs tokens).map fun t => Diagnostic.unterminatedBlock t.value t.place)⟩) ∧
      symbolsAll statements =
        (matched tokens).map Token.symbol ++ List.replicate (openIfs tokens).length .closing := by
  obtain ⟨p, ds, hreads, hparse⟩ := parseTokens_lenient tokens
  obtain ⟨hsymbols, hstrays⟩ := hreads.openSymbols_eq
  have hopened := hreads.opened_eq
  refine ⟨closeAll p.opened p.statements, plain_closeAll hreads.plain.2 hreads.plain.1, ?_, ?_⟩
  · have hreports : p.opened.map OpenBlock.report =
        (openIfs tokens).map fun t => Diagnostic.unterminatedBlock t.value t.place := by
      rw [← hopened, List.map_map]
      rfl
    rw [Parser.parse, hparse, hstrays, hreports]
  · rw [symbolsAll_closeAll, hsymbols, ← hopened, List.length_map]

end Stencil
