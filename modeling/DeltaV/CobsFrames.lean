import DeltaV.Cobs

/-!
# What the COBS decoder accepts

`decodeAt` is `decode` with its positions: a read past the input or a write past the buffer has no
result. There is none (`decodeAt_eq`). The decoder accepts exactly the concatenations of complete
blocks whose contents fit the buffer (`decode_blocks`, `decode_ne_zero`). It looks for zeros among
the code bytes only, so it also accepts blocks whose data holds a zero byte, which no encoder writes
(`sound_iff`).
-/

namespace DeltaV

namespace Cobs

open Stuffing

variable {output_max : ℕ}

/-! ## Positions -/

/-- The variables of `decode`. -/
structure DecodeCursor (output_max : ℕ) where
  output : Vector UInt8 output_max
  read_pos : ℕ
  write_pos : ℕ

/-- Code that reads and writes at positions: an error is `return 0;` with the buffer as it is, and
an access outside of the buffers has no result. -/
abbrev Access (output_max : ℕ) := ExceptT (Vector UInt8 output_max) Option

/-- `input[pos]`. -/
def load (input : List UInt8) (pos : ℕ) : Option UInt8 := input[pos]?

/-- The loop that copies a run of the given length. -/
def copyRunAt (input : List UInt8) : ℕ → DecodeCursor output_max →
    Access output_max (DecodeCursor output_max)
  | 0, s => pure s
  | count + 1, s =>
    if input.length ≤ s.read_pos then throw s.output
    else if output_max ≤ s.write_pos then throw s.output
    else do
      let byte ← load input s.read_pos
      let output ← store s.output s.write_pos byte
      copyRunAt input count ⟨output, s.read_pos + 1, s.write_pos + 1⟩

/-- One pass of the loop of `decode`, which has read `code`. -/
def decodeBlockAt (input : List UInt8) (code : UInt8) (s : DecodeCursor output_max) :
    Access output_max (DecodeCursor output_max) :=
  if code = 0 then throw s.output
  else do
    let s ← copyRunAt input (code.toNat - 1) s
    if code < 0xFF ∧ s.read_pos < input.length then
      if output_max ≤ s.write_pos then throw s.output
      else do
        let output ← store s.output s.write_pos 0
        pure ⟨output, s.read_pos, s.write_pos + 1⟩
    else pure s

/-- The loop of `decode`; a run that needs more fuel has no result. -/
def decodeBlocksAt (input : List UInt8) : ℕ → DecodeCursor output_max →
    Access output_max (DecodeCursor output_max)
  | 0, s => if s.read_pos < input.length then (none : Option _) else pure s
  | fuel + 1, s =>
    if s.read_pos < input.length then do
      let code ← load input s.read_pos
      let s ← decodeBlockAt input code ⟨s.output, s.read_pos + 1, s.write_pos⟩
      decodeBlocksAt input fuel s
    else pure s

/-- Decodes a frame without its delimiter; returns the buffer and the number of bytes decoded,
which is zero after a framing error. -/
def decodeAt (input : List UInt8) (output : Vector UInt8 output_max) :
    Option (Vector UInt8 output_max × ℕ) :=
  if input.length = 0 then some (output, 0)
  else
    (decodeBlocksAt input input.length ⟨output, 0, 0⟩).run.map fun
      | Except.ok s => (s.output, s.write_pos)
      | Except.error output => (output, 0)

/-- What is left to read at a position. -/
def DecodeCursor.view (input : List UInt8) (s : DecodeCursor output_max) : DecodeState output_max :=
  ⟨input.drop s.read_pos, s.output, s.write_pos⟩

/-- The code has a result, which is that of the code on what is left to read, and it goes on at a
position or behind it. -/
def Agrees (input : List UInt8) (pos : ℕ) (x : Access output_max (DecodeCursor output_max))
    (e : Except (Vector UInt8 output_max) (DecodeState output_max)) : Prop :=
  ∃ r, x.run = some r ∧ r.map (DecodeCursor.view input) = e ∧
    ∀ s, r = Except.ok s → pos ≤ s.read_pos

namespace Agrees

variable {input : List UInt8} {pos : ℕ} {x : Access output_max (DecodeCursor output_max)}
  {e : Except (Vector UInt8 output_max) (DecodeState output_max)}

/-- An access that returns its state agrees with the decoder. -/
theorem pure {s : DecodeCursor output_max} (h : pos ≤ s.read_pos) :
    Agrees input pos (pure s) (Except.ok (s.view input)) := by
  refine ⟨Except.ok s, rfl, rfl, fun s' hs => ?_⟩
  rwa [← Except.ok.inj hs]

/-- An access that fails agrees with a decoder that fails. -/
theorem throw (output : Vector UInt8 output_max) :
    Agrees input pos (throw output) (Except.error output) := by
  refine ⟨Except.error output, rfl, rfl, fun s hs => ?_⟩
  cases hs

/-- Accesses one after the other agree with the steps of the decoder. -/
theorem bind {pos' : ℕ} {f : DecodeCursor output_max → Access output_max (DecodeCursor output_max)}
    {g : DecodeState output_max → Except (Vector UInt8 output_max) (DecodeState output_max)}
    (h : Agrees input pos x e)
    (hf : ∀ s, pos ≤ s.read_pos → Agrees input pos' (f s) (g (s.view input))) :
    Agrees input pos' (x >>= f) (e >>= g) := by
  obtain ⟨r, hx, rfl, hpos⟩ := h
  cases r with
  | error output =>
    have hrun : (x >>= f).run = some (Except.error output) := by
      rw [ExceptT.run_bind, hx]
      rfl
    refine ⟨Except.error output, hrun, rfl, fun s hs => ?_⟩
    cases hs
  | ok s =>
    obtain ⟨r, hrun, hr⟩ := hf s (hpos s rfl)
    refine ⟨r, ?_, hr⟩
    rw [ExceptT.run_bind, hx]
    exact hrun

/-- An access inside of a buffer. -/
theorem access {α : Type} {o : Option α} {a : α}
    {f : α → Access output_max (DecodeCursor output_max)} (ho : o = some a)
    (h : Agrees input pos (f a) e) : Agrees input pos (liftM o >>= f) e := by
  subst ho
  exact h

end Agrees

/-- What is read at a position that is left. -/
theorem view_of_lt {input : List UInt8} {s : DecodeCursor output_max}
    (h : s.read_pos < input.length) :
    load input s.read_pos = some input[s.read_pos] ∧ s.view input =
      ⟨input[s.read_pos] :: input.drop (s.read_pos + 1), s.output, s.write_pos⟩ := by
  refine ⟨List.getElem?_eq_getElem h, ?_⟩
  rw [DecodeCursor.view, List.drop_eq_getElem_cons h]

/-- Nothing is left to read. -/
theorem view_of_le {input : List UInt8} {s : DecodeCursor output_max}
    (h : input.length ≤ s.read_pos) : (s.view input).input = [] := List.drop_eq_nil_of_le h

/-- A byte is written where there is room. -/
theorem agrees_emit (input : List UInt8) (output : Vector UInt8 output_max) (pos write_pos : ℕ)
    (byte : UInt8) {f : DecodeCursor output_max → Access output_max (DecodeCursor output_max)}
    {g : DecodeState output_max → Except (Vector UInt8 output_max) (DecodeState output_max)}
    (hf : ∀ s, pos ≤ s.read_pos → Agrees input pos (f s) (g (s.view input))) :
    Agrees input pos
      (if output_max ≤ write_pos then throw output
        else do
          let output ← store output write_pos byte
          f ⟨output, pos, write_pos + 1⟩)
      (emit ⟨input.drop pos, output, write_pos⟩ byte >>= g) := by
  by_cases hroom : output_max ≤ write_pos
  · have hemit : emit ⟨input.drop pos, output, write_pos⟩ byte = Except.error output :=
      dif_neg (not_lt.mpr hroom)
    rw [if_pos hroom, hemit]
    exact Agrees.throw output
  · have hlt : write_pos < output_max := not_le.mp hroom
    have hemit : emit ⟨input.drop pos, output, write_pos⟩ byte = Except.ok
        (DecodeCursor.view input ⟨output.set write_pos byte hlt, pos, write_pos + 1⟩) := dif_pos hlt
    rw [if_neg hroom, hemit]
    exact Agrees.access (dif_pos hlt) (hf _ le_rfl)

/-- What agrees from a later position on agrees from an earlier one. -/
theorem Agrees.mono {input : List UInt8} {pos pos' : ℕ}
    {x : Access output_max (DecodeCursor output_max)}
    {e : Except (Vector UInt8 output_max) (DecodeState output_max)} (h : Agrees input pos' x e)
    (hpos : pos ≤ pos') : Agrees input pos x e := by
  obtain ⟨r, hx, he, hr⟩ := h
  exact ⟨r, hx, he, fun s hs => hpos.trans (hr s hs)⟩

/-- The copying of a run agrees with the decoder. -/
theorem agrees_copyRun (input : List UInt8) (count : ℕ) (s : DecodeCursor output_max) :
    Agrees input s.read_pos (copyRunAt input count s) (copyRun count (s.view input)) := by
  induction count generalizing s with
  | zero => exact Agrees.pure le_rfl
  | succ count ih =>
    rw [copyRunAt]
    by_cases hread : input.length ≤ s.read_pos
    · rw [if_pos hread, copyRun, view_of_le hread]
      exact Agrees.throw s.output
    obtain ⟨hload, hview⟩ := view_of_lt (not_le.mp hread)
    have hnext := agrees_emit input s.output (s.read_pos + 1) s.write_pos input[s.read_pos]
      fun s h => (ih s).mono h
    rw [if_neg hread, hload, hview]
    exact hnext.mono (Nat.le_succ _)

/-- A block agrees with the decoder. -/
theorem agrees_decodeBlock (input : List UInt8) (code : UInt8) (s : DecodeCursor output_max) :
    Agrees input s.read_pos (decodeBlockAt input code s) (decodeBlock code (s.view input)) := by
  rw [decodeBlockAt, decodeBlock]
  split_ifs with hzero
  · exact Agrees.throw s.output
  refine Agrees.bind (agrees_copyRun input _ s) fun s hpos => ?_
  have hleft : (s.view input).input ≠ [] ↔ s.read_pos < input.length := by
    rw [DecodeCursor.view, Ne, List.drop_eq_nil_iff, not_le]
  by_cases hmore : code < 0xFF ∧ s.read_pos < input.length
  · rw [if_pos hmore, if_pos (And.intro hmore.1 (hleft.mpr hmore.2)), ← bind_pure (emit _ _)]
    exact (agrees_emit input s.output s.read_pos s.write_pos 0
      fun s h => Agrees.pure h).mono hpos
  · rw [if_neg hmore, if_neg fun h => hmore ⟨h.1, hleft.mp h.2⟩]
    exact Agrees.pure hpos

/-- All blocks agree with the decoder. -/
theorem agrees_decodeBlocks (input : List UInt8) (fuel : ℕ) (s : DecodeCursor output_max)
    (hfuel : input.length ≤ s.read_pos + fuel) :
    Agrees input 0 (decodeBlocksAt input fuel s) (decodeBlocks fuel (s.view input)) := by
  induction fuel generalizing s with
  | zero =>
    rw [Nat.add_zero] at hfuel
    rw [decodeBlocksAt, if_neg (not_lt.mpr hfuel)]
    exact Agrees.pure (Nat.zero_le _)
  | succ fuel ih =>
    rw [decodeBlocksAt]
    by_cases hread : s.read_pos < input.length
    · obtain ⟨hload, hview⟩ := view_of_lt hread
      rw [if_pos hread, hview]
      refine Agrees.access hload (Agrees.bind
        (agrees_decodeBlock input input[s.read_pos] ⟨s.output, s.read_pos + 1, s.write_pos⟩)
        fun s' hpos => ih s' ?_)
      -- The code byte has been read.
      change s.read_pos + 1 ≤ s'.read_pos at hpos
      omega
    · rw [if_neg hread, decodeBlocks_nil (view_of_le (not_lt.mp hread))]
      exact Agrees.pure (Nat.zero_le _)

/-- The decoder stays inside of its buffers. -/
theorem decodeAt_eq (input : List UInt8) (output : Vector UInt8 output_max) :
    decodeAt input output = some (decode input output) := by
  unfold decodeAt decode
  by_cases hnil : input = []
  · rw [if_pos (List.length_eq_zero_iff.mpr hnil), if_pos hnil]
  · obtain ⟨r, hrun, hr, -⟩ := agrees_decodeBlocks input input.length ⟨output, 0, 0⟩ (by simp)
    rw [if_neg (mt List.eq_nil_of_length_eq_zero hnil), if_neg hnil, hrun]
    change r.map (DecodeCursor.view input) = decodeBlocks input.length ⟨input, output, 0⟩ at hr
    rw [← hr]
    cases r <;> rfl

/-! ## Blocks -/

/-- A byte that has been written had room. -/
theorem Reading.of_emit {input out rest : List UInt8} {byte : UInt8} {s s' : DecodeState output_max}
    (h : Reading input out rest s) (hemit : Cobs.emit s byte = Except.ok s') :
    ∃ old rest', rest = old :: rest' ∧ Reading input (out ++ [byte]) rest' s' := by
  cases rest with
  | nil =>
    have hfull : ¬s.write_pos < output_max := by
      have := congrArg List.length h.output
      rw [Vector.length_toList, List.append_nil] at this
      rw [h.write_pos]
      omega
    have herror : Cobs.emit s byte = Except.error s.output := dif_neg hfull
    rw [herror] at hemit
    cases hemit
  | cons old rest =>
    obtain ⟨s₁, hs₁, h₁⟩ := h.emit byte
    rw [hs₁] at hemit
    rw [← Except.ok.inj hemit]
    exact ⟨old, rest, rfl, h₁⟩

/-- A run that has been copied was there, and there was room for it. -/
theorem Reading.of_copyRun {count : ℕ} {input out rest : List UInt8}
    {s s' : DecodeState output_max} (h : Reading input out rest s)
    (hcopy : Cobs.copyRun count s = Except.ok s') :
    ∃ run input', input = run ++ input' ∧ run.length = count ∧ count ≤ rest.length ∧
      Reading input' (out ++ run) (rest.drop count) s' := by
  induction count generalizing input out rest s with
  | zero =>
    rw [← Except.ok.inj hcopy, List.drop_zero]
    exact ⟨[], input, rfl, rfl, Nat.zero_le _, by rwa [List.append_nil]⟩
  | succ count ih =>
    rw [Cobs.copyRun, h.input] at hcopy
    cases input with
    | nil => cases hcopy
    | cons byte input =>
      have hread : Reading input out rest { s with input := input } := ⟨rfl, h.output, h.write_pos⟩
      cases hemit : Cobs.emit { s with input := input } byte with
      | error output =>
        simp only [hemit] at hcopy
        cases hcopy
      | ok s₁ =>
        simp only [hemit] at hcopy
        obtain ⟨old, rest, rfl, h₁⟩ := hread.of_emit hemit
        obtain ⟨run, input', rfl, hlen, hroom, h'⟩ := ih h₁ hcopy
        refine ⟨byte :: run, input', rfl, ?_, ?_, ?_⟩
        · rw [List.length_cons, hlen]
        · rw [List.length_cons]
          omega
        · rw [List.append_assoc, List.singleton_append] at h'
          exact h'

/-- A block that has been decoded was complete, and there was room for it and the zero byte behind
it. -/
theorem Reading.of_decodeBlock {code : UInt8} {input out rest : List UInt8}
    {s s' : DecodeState output_max} (h : Reading input out rest s)
    (hblock : Cobs.decodeBlock code s = Except.ok s') :
    ∃ run input' zero, run.length ≤ MAX_RUN ∧ code :: input = block run ++ input' ∧
      zero = (if run.length < MAX_RUN ∧ input' ≠ [] then [0] else []) ∧
      (run ++ zero).length ≤ rest.length ∧
      Reading input' (out ++ (run ++ zero)) (rest.drop (run ++ zero).length) s' := by
  rw [Cobs.decodeBlock] at hblock
  split_ifs at hblock with hzero
  cases hcopy : Cobs.copyRun (code.toNat - 1) s with
  | error output =>
    rw [hcopy] at hblock
    cases hblock
  | ok s₁ =>
    obtain ⟨run, input', rfl, hlen, hroom, h₁⟩ := h.of_copyRun hcopy
    have hmax : MAX_RUN = 254 := rfl
    have hlt := code.toNat_lt
    have hpos : code.toNat ≠ 0 := fun heq => hzero (UInt8.toNat.inj heq)
    -- The code byte is one more than the length of the run behind it.
    have hcode : code = UInt8.ofNat (run.length + 1) := by
      apply UInt8.toNat.inj
      rw [UInt8.toNat_ofNat']
      omega
    have hshort : code < 0xFF ↔ run.length < MAX_RUN := by
      rw [UInt8.lt_iff_toNat_lt, hmax]
      show code.toNat < 255 ↔ _
      omega
    rw [hcopy] at hblock
    change (if code < 0xFF ∧ s₁.input ≠ [] then Cobs.emit s₁ 0 else Except.ok s₁) =
      Except.ok s' at hblock
    simp only [hshort, h₁.input] at hblock
    have hblockeq : code :: (run ++ input') = block run ++ input' := by
      rw [block, ← hcode]
      rfl
    refine ⟨run, input', _, by omega, hblockeq, rfl, ?_⟩
    rw [← hlen] at hroom h₁
    split_ifs at hblock ⊢ with hmore
    · obtain ⟨old, rest', hrest, h₂⟩ := h₁.of_emit hblock
      have hcount := congrArg List.length hrest
      rw [List.length_drop, List.length_cons] at hcount
      rw [List.length_append, List.length_singleton]
      refine ⟨by omega, ?_⟩
      rw [← List.append_assoc, ← List.drop_drop, hrest]
      exact h₂
    · rw [← Except.ok.inj hblock, List.append_nil]
      exact ⟨hroom, h₁⟩

/-- Blocks that have been decoded were complete, and there was room for what they stand for. -/
theorem Reading.of_decodeBlocks {fuel : ℕ} {input out rest : List UInt8}
    {s s' : DecodeState output_max} (h : Reading input out rest s) (hfuel : input.length ≤ fuel)
    (hloop : Cobs.decodeBlocks fuel s = Except.ok s') :
    ∃ runs, Blocks runs input ∧ (unstuff runs).length ≤ rest.length ∧
      Reading [] (out ++ unstuff runs) (rest.drop (unstuff runs).length) s' := by
  induction fuel generalizing input out rest s with
  | zero =>
    obtain rfl := List.eq_nil_of_length_eq_zero (Nat.le_zero.mp hfuel)
    rw [← Except.ok.inj hloop]
    exact ⟨[], Blocks.nil, Nat.zero_le _, by rwa [unstuff, List.append_nil]⟩
  | succ fuel ih =>
    cases input with
    | nil =>
      rw [decodeBlocks_nil h.input] at hloop
      rw [← Except.ok.inj hloop]
      exact ⟨[], Blocks.nil, Nat.zero_le _, by rwa [unstuff, List.append_nil]⟩
    | cons code input =>
      rw [Cobs.decodeBlocks, h.input] at hloop
      have hbehind : Reading input out rest { s with input := input } :=
        ⟨rfl, h.output, h.write_pos⟩
      cases hblock : Cobs.decodeBlock code { s with input := input } with
      | error output =>
        simp only [hblock] at hloop
        cases hloop
      | ok s₁ =>
        simp only [hblock] at hloop
        obtain ⟨run, input', zero, hrun, heq, hzero, hroom, h₁⟩ := hbehind.of_decodeBlock hblock
        rw [List.length_cons] at hfuel
        have hcount := congrArg List.length heq
        rw [List.length_append, block, List.length_cons, List.length_cons] at hcount
        obtain ⟨runs, hblocks, hroom', h'⟩ := ih h₁ (by omega) hloop
        have hunstuff : unstuff (run :: runs) = run ++ zero ++ unstuff runs := by
          rw [unstuff, hzero]
          simp only [ne_eq, hblocks.eq_nil_iff]
        rw [List.length_drop] at hroom'
        refine ⟨run :: runs, heq ▸ hblocks.cons hrun, ?_, ?_⟩
        · rw [hunstuff, List.length_append]
          omega
        · rw [hunstuff, List.length_append, ← List.drop_drop, ← List.append_assoc]
          exact h'

/-- Complete blocks are decoded, if there is room for what they stand for. -/
theorem Reading.decodeBlocks_of_blocks {fuel : ℕ} {input out rest : List UInt8}
    {runs : List (List UInt8)} {s : DecodeState output_max} (h : Reading input out rest s)
    (hblocks : Blocks runs input) (hfuel : input.length ≤ fuel)
    (hroom : (unstuff runs).length ≤ rest.length) :
    ∃ s', Cobs.decodeBlocks fuel s = Except.ok s' ∧
      Reading [] (out ++ unstuff runs) (rest.drop (unstuff runs).length) s' := by
  induction runs generalizing input out rest fuel s with
  | nil =>
    rw [hblocks.eq_nil_iff.mpr rfl] at h
    exact ⟨s, decodeBlocks_nil h.input, by rwa [unstuff, List.append_nil]⟩
  | cons run runs ih =>
    obtain ⟨hrun, hshort⟩ := List.forall_mem_cons.mp hblocks.short
    have hblocks' : Blocks runs (runs.flatMap block) := ⟨rfl, hshort⟩
    have heq : input = block run ++ runs.flatMap block := hblocks.bytes_eq
    have hcount : input.length = run.length + 1 + (runs.flatMap block).length := by
      rw [heq, List.length_append, block, List.length_cons]
    obtain ⟨fuel, rfl⟩ : ∃ n, fuel = n + 1 := ⟨fuel - 1, by omega⟩
    have hfuel' : (runs.flatMap block).length ≤ fuel := by omega
    rw [heq] at h
    rw [unstuff, List.length_append, List.length_append] at hroom
    obtain ⟨s₁, h₁, hloop⟩ := h.decodeBlocks fuel hrun (by omega)
    simp only [ne_eq, hblocks'.eq_nil_iff] at hloop
    rw [hloop, unstuff]
    -- A short block with another one behind it also writes a zero byte.
    split_ifs at hroom ⊢ with hmore
    · rw [List.length_singleton] at hroom
      obtain ⟨old, rest', hrest⟩ := List.exists_cons_of_ne_nil
        (List.ne_nil_of_length_pos (show 0 < (rest.drop run.length).length by
          rw [List.length_drop]
          omega))
      rw [hrest] at h₁
      obtain ⟨s₂, hemit, h₂⟩ := h₁.emit 0
      have hcount := congrArg List.length hrest
      rw [List.length_drop, List.length_cons] at hcount
      obtain ⟨s', hdone, h'⟩ := ih h₂ hblocks' hfuel' (by omega)
      refine ⟨s', by rw [hemit]; exact hdone, ?_⟩
      have hdrop : rest.drop (run.length + 1) = rest' := by
        rw [← List.drop_drop, hrest, List.drop_succ_cons, List.drop_zero]
      rw [List.length_append, List.length_append, List.length_singleton, ← List.drop_drop, hdrop,
        ← List.append_assoc, ← List.append_assoc]
      exact h'
    · rw [List.length_nil, Nat.add_zero] at hroom
      obtain ⟨s', hdone, h'⟩ := ih h₁ hblocks' hfuel' (by rw [List.length_drop]; omega)
      refine ⟨s', hdone, ?_⟩
      rw [List.append_nil, List.length_append, ← List.drop_drop, ← List.append_assoc]
      exact h'

/-! ## What is accepted -/

/-- Complete blocks are decoded to what they stand for, if there is room for it. -/
theorem decode_blocks {input : List UInt8} {runs : List (List UInt8)} (h : Blocks runs input)
    (output : Vector UInt8 output_max) (hroom : (unstuff runs).length ≤ output_max) :
    (decode input output).2 = (unstuff runs).length := by
  have hstart : Reading input [] output.toList ⟨input, output, 0⟩ := ⟨rfl, rfl, rfl⟩
  unfold decode
  split_ifs with hnil
  · rw [h.eq_nil_iff.mp hnil]
    rfl
  · obtain ⟨s, hloop, hs⟩ := hstart.decodeBlocks_of_blocks h le_rfl
      (by rwa [Vector.length_toList])
    rw [hloop]
    exact hs.write_pos

/-- What is decoded was complete blocks, and the buffer begins with what they stand for. -/
theorem blocks_of_decode {input : List UInt8} {output : Vector UInt8 output_max}
    (h : (decode input output).2 ≠ 0) :
    ∃ runs, Blocks runs input ∧ (unstuff runs).length ≤ output_max ∧
      (decode input output).2 = (unstuff runs).length ∧
      (decode input output).1.toList.take (decode input output).2 = unstuff runs := by
  have hstart : Reading input [] output.toList ⟨input, output, 0⟩ := ⟨rfl, rfl, rfl⟩
  unfold decode at h ⊢
  split_ifs at h ⊢ with hnil
  · exact absurd rfl h
  cases hloop : decodeBlocks input.length ⟨input, output, 0⟩ with
  | error output' =>
    rw [hloop] at h
    exact absurd rfl h
  | ok s =>
    obtain ⟨runs, hblocks, hroom, hs⟩ := hstart.of_decodeBlocks le_rfl hloop
    rw [Vector.length_toList] at hroom
    refine ⟨runs, hblocks, hroom, hs.write_pos, ?_⟩
    change s.output.toList.take s.write_pos = _
    rw [hs.output, hs.write_pos, List.take_left]
    rfl

/-- The decoder accesses its buffers only, it returns something only for complete blocks without a
zero byte, and then what they stand for, and it returns nothing for an input that holds a zero byte
or ends inside of a block. -/
def Sound (input : List UInt8) (output : Vector UInt8 output_max) : Prop :=
  ∃ r, decodeAt input output = some r ∧
    (r.2 ≠ 0 → 0 ∉ input ∧ ∃ runs, Blocks runs input ∧ r.1.toList.take r.2 = unstuff runs) ∧
    (0 ∈ input ∨ (¬∃ runs, Blocks runs input) → r.2 = 0)

/-- The data of a run is part of what the runs stand for. -/
theorem mem_unstuff {runs : List (List UInt8)} {run : List UInt8} (hrun : run ∈ runs)
    {byte : UInt8} (hbyte : byte ∈ run) : byte ∈ unstuff runs := by
  induction runs with
  | nil => cases hrun
  | cons first runs ih =>
    rw [unstuff, List.mem_append, List.mem_append]
    rcases List.mem_cons.mp hrun with rfl | hrest
    · exact Or.inl (Or.inl hbyte)
    · exact Or.inr (ih hrest)

/-- A zero byte in complete blocks is in the data of one of them. -/
theorem zero_mem_iff {input : List UInt8} {runs : List (List UInt8)} (h : Blocks runs input) :
    0 ∈ input ↔ ∃ run ∈ runs, 0 ∈ run := by
  rw [h.bytes_eq, List.mem_flatMap]
  refine exists_congr fun run => and_congr_right fun hrun =>
    ⟨fun hzero => ?_, List.mem_cons_of_mem _⟩
  by_contra hnonzero
  exact zero_notMem_block hnonzero (h.short run hrun) hzero

/-- The decoder is right exactly about the inputs that are no complete blocks with a zero byte in
their data and room for it. -/
theorem sound_iff (input : List UInt8) (output : Vector UInt8 output_max) :
    Sound input output ↔
      ¬∃ runs, Blocks runs input ∧ (unstuff runs).length ≤ output_max ∧ ∃ run ∈ runs, 0 ∈ run := by
  unfold Sound
  constructor
  · rintro ⟨r, hr, -, hzero⟩ ⟨runs, hblocks, hroom, run, hrun, hmem⟩
    rw [decodeAt_eq] at hr
    have hlen := decode_blocks hblocks output hroom
    have hnone := hzero (Or.inl ((zero_mem_iff hblocks).mpr ⟨run, hrun, hmem⟩))
    rw [← Option.some.inj hr, hlen] at hnone
    -- The zero byte is decoded.
    have hbyte := mem_unstuff hrun hmem
    rw [List.eq_nil_of_length_eq_zero hnone] at hbyte
    cases hbyte
  · intro h
    refine ⟨decode input output, decodeAt_eq input output, fun hne => ?_, fun hbad => ?_⟩
    · obtain ⟨runs, hblocks, hroom, -, htake⟩ := blocks_of_decode hne
      refine ⟨fun hzero => h ⟨runs, hblocks, hroom, (zero_mem_iff hblocks).mp hzero⟩, runs, hblocks,
        htake⟩
    · by_contra hne
      obtain ⟨runs, hblocks, hroom, -, -⟩ := blocks_of_decode hne
      rcases hbad with hzero | hnone
      · exact h ⟨runs, hblocks, hroom, (zero_mem_iff hblocks).mp hzero⟩
      · exact hnone ⟨runs, hblocks⟩

/-- A block whose data is a zero byte is decoded. -/
theorem zero_data_accepted : ¬Sound [2, 0] (Vector.replicate 8 0) := by
  rintro ⟨r, hr, -, hzero⟩
  have hnone := hzero (Or.inl (by decide))
  have hlen : (decodeAt [2, 0] (Vector.replicate 8 0)).map Prod.snd = some 1 := by decide
  rw [hr, Option.map_some, hnone] at hlen
  cases hlen

end Cobs

end DeltaV
