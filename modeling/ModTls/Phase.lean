import ModTls.Conn

namespace ModTls
set_option autoImplicit true

/-- A call keeps the phase and a set `c->aborted`, or aborts to `DONE` answering `APR_ECONNABORTED`. -/
def KeepsOrAborts (rv : AprStatus) (c c' : Conn σ ν) : Prop :=
  (c'.state = c.state ∧ (c.aborted = true → c'.aborted = true)) ∨
    (rv = .econnaborted ∧ c'.state = .done ∧ c'.aborted = true)

theorem KeepsOrAborts.of_frame (hs : c'.state = c.state) (ha : c.aborted = true → c'.aborted = true) :
    KeepsOrAborts rv c c' := .inl ⟨hs, ha⟩

/-- A call of `filter_conn_input` or `filter_conn_output` with its arguments. -/
inductive Call
  | input (mode : InputMode) (block : ReadType) (readbytes : Nat)
  | output (bb : List OutBucket)
  deriving DecidableEq, Repr

/-- The phase moves one call can make. -/
inductive PhaseMove : Call → ConnState → ConnState → Prop
  | stay : PhaseMove call s s
  | sniff : PhaseMove (.input mode blk n) .preHandshake .handshake
  | handshake : PhaseMove (.input mode blk n) .handshake .traffic
  | sniffAndHandshake : PhaseMove (.input mode blk n) .preHandshake .traffic
  | abort : PhaseMove (.input mode blk n) s .done
  | notify : .eoc ∈ bb → s ≠ .done → PhaseMove (.output bb) s .notified

/-- The position of a phase in `PRE_HANDSHAKE < HANDSHAKE < TRAFFIC < NOTIFIED < DONE`. -/
def ConnState.rank : ConnState → Nat
  | .ignored | .preHandshake => 0
  | .handshake => 1
  | .traffic => 2
  | .notified => 3
  | .done => 4

theorem PhaseMove.rank_le (h : PhaseMove call s s') : s.rank ≤ s'.rank := by
  cases h with
  | notify _ hd => cases s <;> simp_all [ConnState.rank]
  | abort => cases s <;> simp [ConnState.rank]
  | _ => simp [ConnState.rank]

theorem PhaseMove.done_final (h : PhaseMove call .done s') : s' = .done := by
  generalize hs : ConnState.done = s at h
  cases h <;> simp_all

/-- One call's effect: a `PhaseMove`, `c->aborted` kept, and `DONE` entered only aborted. -/
structure CallEffect (call : Call) (c c' : Conn σ ν) : Prop where
  move : PhaseMove call c.state c'.state
  aborted_mono : c.aborted = true → c'.aborted = true
  done_aborted : c'.state = .done → c.state = .done ∨ c'.aborted = true

theorem CallEffect.frame (h : CallEffect call c c₁) (hs : c₂.state = c₁.state)
    (ha : c₁.aborted = true → c₂.aborted = true) : CallEffect call c c₂ where
  move := hs ▸ h.move
  aborted_mono := ha ∘ h.aborted_mono
  done_aborted hd := (h.done_aborted (hs ▸ hd)).imp_right ha

theorem CallEffect.of_keepsOrAborts (h : KeepsOrAborts rv c c') :
    CallEffect (.input mode blk n) c c' := by
  rcases h with ⟨hs, ha⟩ | ⟨-, hs, ha⟩
  · exact ⟨hs ▸ .stay, ha, fun hd => .inl (hs ▸ hd)⟩
  · exact ⟨hs ▸ .abort, fun _ => ha, fun _ => .inr ha⟩

theorem CallEffect.frame_left (h : CallEffect call c₁ c₂) (hs : c₁.state = c.state)
    (ha : c₁.aborted = c.aborted) : CallEffect call c c₂ where
  move := hs ▸ h.move
  aborted_mono := h.aborted_mono ∘ (ha ▸ id)
  done_aborted hd := hs ▸ h.done_aborted hd

theorem CallEffect.refl (call : Call) (c : Conn σ ν) : CallEffect call c c :=
  ⟨.stay, id, .inl⟩

theorem PhaseMove.trans_input (h₁ : PhaseMove (.input mode blk n) s₁ s₂)
    (h₂ : PhaseMove (.input mode blk n) s₂ s₃) : PhaseMove (.input mode blk n) s₁ s₃ := by
  cases h₁ <;> cases h₂ <;> constructor

theorem CallEffect.trans_input (h₁ : CallEffect (.input mode blk n) c c₁)
    (h₂ : CallEffect (.input mode blk n) c₁ c₂) : CallEffect (.input mode blk n) c c₂ where
  move := h₁.move.trans_input h₂.move
  aborted_mono := h₂.aborted_mono ∘ h₁.aborted_mono
  done_aborted hd := (h₂.done_aborted hd).elim
    (fun hd₁ => (h₁.done_aborted hd₁).imp_right h₂.aborted_mono) .inr

theorem CallEffect.advance (hk : KeepsOrAborts .success c c')
    (hm : PhaseMove (.input mode blk n) c.state s') (hs' : s' ≠ .done) :
    CallEffect (.input mode blk n) c { c' with state := s' } := by
  rcases hk with ⟨-, ha⟩ | ⟨h, -⟩
  · exact ⟨hm, ha, fun hd => absurd hd hs'⟩
  · cases h

end ModTls
