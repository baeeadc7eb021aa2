import ModTls.Output

namespace ModTls
set_option autoImplicit true

/-- A relation on connection and remaining brigade that every step of `filter_conn_output` keeps. -/
structure OutputSteps (L : Limits) (E : Env σ ν)
    (R : Conn σ ν → List OutBucket → Conn σ ν → List OutBucket → Prop) : Prop where
  refl : ∀ c bb, R c bb c bb
  trans : ∀ {c bb c₁ bb₁ c₂ bb₂}, R c bb c₁ bb₁ → R c₁ bb₁ c₂ bb₂ → R c bb c₂ bb₂
  sendCloseNotify : ∀ c bb,
    R c bb { c with session := E.sendCloseNotify c.session, state := .notified } bb
  plainBufToRustls : ∀ {c bb rv fout s},
    foutPlainBufToRustls E.toServerSession c.fout c.session = (rv, fout, s) →
      R c bb { c with fout, session := s } bb
  brigade : ∀ {fuel c bb rv fout s},
    brigadeTlsFromRustls L E.toServerSession fuel c.fout c.session = .ok (rv, fout, s) →
      R c bb { c with fout, session := s } bb
  writeAll : ∀ {fuel c bb rv c'}, writeAllTlsFromRustls L E fuel c = .ok (rv, c') → R c bb c' bb
  forward : ∀ {c b rest}, b.isMetadata →
    R c (b :: rest) { c with fout := { c.fout with foutTlsBb := c.fout.foutTlsBb ++ [b] } } rest
  pipeEof : ∀ {c chunks last rest bytes follow}, pipeRead chunks last = (.eof, bytes, follow) →
    R c (.pipe chunks last :: rest) c rest
  pipeRead : ∀ {c chunks last rest bytes follow}, pipeRead chunks last = (.success, bytes, follow) →
    R c (.pipe chunks last :: rest) c (.heap bytes :: (follow ++ rest))
  appendBytes : ∀ {c b dlen rest rv n bb c'}, b.length = some dlen → b.isMetadata = false →
    foutAppendBytes L E c b
        (bucketSplit b dlen (c.fout.foutBufPlainSize - c.fout.foutBufPlain.length) rest).1
        (bucketSplit b dlen (c.fout.foutBufPlainSize - c.fout.foutBufPlain.length) rest).2
        (c.fout.foutBufPlainSize - c.fout.foutBufPlain.length) = .ok (rv, n, bb, c') →
      R c (b :: rest) c' bb

namespace OutputSteps
variable {L : Limits} {E : Env σ ν} {R : Conn σ ν → List OutBucket → Conn σ ν → List OutBucket → Prop}
  (hR : OutputSteps L E R)
include hR

theorem foutMakeRoom (h : foutMakeRoom E c = .ok (rv, c')) : R c bb c' bb := by
  unfold ModTls.foutMakeRoom at h
  split_ifs at h
  · rcases hp : foutPlainBufToRustls E.toServerSession c.fout c.session with ⟨rv₁, fout, s⟩
    have r₁ : R c bb { c with fout, session := s } bb := hR.plainBufToRustls hp
    rw [hp] at h
    dsimp only at h
    split_ifs at h
    · obtain ⟨_, -, h⟩ := bind_eq_ok.mp h
      cases h
      exact r₁
    · cases h
      exact r₁
  · cases h
    exact hR.refl _ _

theorem foutPlainBufAppend (hm : b.isMetadata = false)
    (h : foutPlainBufAppend L E c b rest = .ok (rv, n, bb, c')) : R c (b :: rest) c' bb := by
  unfold ModTls.foutPlainBufAppend at h
  split at h
  · cases h
  next dlen hdl =>
  obtain ⟨⟨rv₁, c₁⟩, h₁, h⟩ := bind_eq_ok.mp h
  have r₁ : R c (b :: rest) c₁ (b :: rest) := hR.foutMakeRoom h₁
  dsimp only at h
  split_ifs at h
  · cases h
    exact r₁
  · exact hR.trans r₁ (hR.appendBytes hdl hm h)

theorem outputBucket (h : outputBucket L E fuel c b rest = .ok (rv, cont, bb, c')) :
    R c (b :: rest) c' bb := by
  unfold ModTls.outputBucket at h
  by_cases hmeta : b.isMetadata
  · rw [if_pos hmeta] at h
    generalize hc₀ : ite (b = .eoc) _ c = c₀ at h
    have r₀ : R c (b :: rest) c₀ (b :: rest) := by
      subst hc₀
      split_ifs
      · exact hR.sendCloseNotify _ _
      · exact hR.refl _ _
    rcases hp : foutPlainBufToRustls E.toServerSession c₀.fout c₀.session with ⟨rv₁, fout₁, s₁⟩
    have r₁ : R c (b :: rest) { c₀ with fout := fout₁, session := s₁ } (b :: rest) :=
      hR.trans r₀ (hR.plainBufToRustls hp)
    dsimp only at h
    rw [hp] at h
    dsimp only at h
    split_ifs at h
    · cases h
      exact r₁
    obtain ⟨⟨rv₂, fout₂, s₂⟩, h₂, h⟩ := bind_eq_ok.mp h
    have r₂ : R c (b :: rest) { c₀ with fout := fout₂, session := s₂ } (b :: rest) :=
      hR.trans r₁ (hR.brigade (c := { c₀ with fout := fout₁, session := s₁ }) h₂)
    dsimp only at h
    split_ifs at h <;> cases h
    · exact r₂
    · exact hR.trans r₂ (hR.forward hmeta)
  · rw [if_neg hmeta] at h
    split at h
    next chunks last =>
      rcases hpr : ModTls.pipeRead chunks last with ⟨rv₁, bytes, follow⟩
      rw [hpr] at h
      dsimp only at h
      split_ifs at h with he hs
      · cases h
        exact hR.pipeEof (he ▸ hpr)
      · cases h
        exact hR.refl _ _
      · obtain ⟨⟨rv₂, n₂, bb₂, c₂⟩, h₂, h⟩ := bind_eq_ok.mp h
        cases h
        exact hR.trans (hR.pipeRead (not_not.mp hs ▸ hpr)) (hR.foutPlainBufAppend rfl h₂)
    · obtain ⟨⟨rv₁, n₁, bb₁, c₁⟩, h₁, h⟩ := bind_eq_ok.mp h
      cases h
      exact hR.foutPlainBufAppend (Bool.eq_false_iff.mpr hmeta) h₁

theorem outputCheck (h : outputCheck L E fuel c = .ok (rv, c')) : R c bb c' bb := by
  obtain ⟨⟨rv₁, c₁⟩, h₁, h⟩ := bind_eq_ok.mp h
  have r₁ : R c bb c₁ bb := by
    split at h₁
    · obtain ⟨⟨rv₂, fout, s⟩, h₂, h₁⟩ := bind_eq_ok.mp h₁
      cases h₁
      exact hR.brigade h₂
    · cases h₁
      exact hR.refl _ _
  dsimp only at h
  split_ifs at h
  · cases h
    exact r₁
  · exact hR.trans r₁ (hR.writeAll h)
  · cases h
    exact r₁

theorem outputLoop (h : outputLoop L E fuel bb c = .ok (rv, bb', c')) : R c bb c' bb' := by
  induction fuel generalizing bb c with
  | zero => cases h
  | succ fuel ih =>
    cases bb with
    | nil =>
      cases h
      exact hR.refl _ _
    | cons b rest =>
      rw [ModTls.outputLoop] at h
      obtain ⟨⟨rv₁, cont, bb₁, c₁⟩, h₁, h⟩ := bind_eq_ok.mp h
      have r₁ := hR.outputBucket h₁
      dsimp only at h
      split_ifs at h
      · cases h
        exact r₁
      · exact hR.trans r₁ (ih h)
      · obtain ⟨⟨rv₂, c₂⟩, h₂, h⟩ := bind_eq_ok.mp h
        have r₂ := hR.trans r₁ (hR.outputCheck h₂)
        dsimp only at h
        split_ifs at h
        · cases h
          exact r₂
        · exact hR.trans r₂ (ih h)

theorem filterConnOutput (ha : c.aborted = false) (hd : c.state ≠ .done)
    (h : filterConnOutput L E fuel c bb = .ok (rv, bb', c')) : R c bb c' bb' := by
  unfold ModTls.filterConnOutput at h
  rw [if_neg (by simp [ha]), if_neg hd] at h
  obtain ⟨⟨rv₁, bb₁, c₁⟩, h₁, h⟩ := bind_eq_ok.mp h
  have r₁ := hR.outputLoop h₁
  dsimp only at h
  split_ifs at h
  · cases h
    exact r₁
  · obtain ⟨⟨rv₂, c₂⟩, h₂, h⟩ := bind_eq_ok.mp h
    cases h
    exact hR.trans r₁ (hR.writeAll h₂)

end OutputSteps

end ModTls
