import ModTls.Plaintext

namespace ModTls
set_option autoImplicit true

/-- What the session decrypted (`p`) and still holds (`q`), and how its calls move them. -/
structure PlainInLog (E : Env σ ν) (p q : σ → List UInt8) : Prop where
  processNewPackets : ∀ s, ∃ d, p (E.processNewPackets s).2 = p s ++ d ∧
    q (E.processNewPackets s).2 = q s ++ d
  read_ok : ∀ s n out s', E.read s n = (.ok, out, s') → p s' = p s ∧ q s = out ++ q s'
  read_err : ∀ s n code out s', E.read s n = (.err code, out, s') → p s' = p s ∧ q s' = q s
  readTls : ∀ s data, p (E.readTls s data).2.2 = p s ∧ q (E.readTls s data).2.2 = q s
  write : ∀ s data, p (E.write s data).2.2 = p s ∧ q (E.write s data).2.2 = q s
  writeTls : ∀ s n, p (E.writeTls s n).2.2 = p s ∧ q (E.writeTls s n).2.2 = q s
  sendCloseNotify : ∀ s, p (E.sendCloseNotify s) = p s ∧ q (E.sendCloseNotify s) = q s
  connInitServer : ∀ s, p (E.connInitServer s).2 = p s ∧ q (E.connInitServer s).2 = q s

/-- The session went from `s` to `s'` by decrypting `d`, which it holds behind what it held. -/
def Decrypts (p q : σ → List UInt8) (s s' : σ) : Prop :=
  ∃ d, p s' = p s ++ d ∧ q s' = q s ++ d

/-- `fin_plain_bb` and the session's plaintext grew by exactly what the session decrypted. -/
def PlainInKept (p q : σ → List UInt8) (c c' : Conn σ ν) : Prop :=
  ∃ d, p c'.session = p c.session ++ d ∧
    c'.fin.finPlainBb ++ q c'.session = c.fin.finPlainBb ++ q c.session ++ d

section
variable {p q : σ → List UInt8}

theorem Decrypts.of_eq (hp : p s' = p s) (hq : q s' = q s) : Decrypts p q s s' :=
  ⟨[], by rw [hp, List.append_nil], by rw [hq, List.append_nil]⟩

theorem Decrypts.trans (h₁ : Decrypts p q s s₁) (h₂ : Decrypts p q s₁ s₂) : Decrypts p q s s₂ := by
  obtain ⟨d₁, hp₁, hq₁⟩ := h₁
  obtain ⟨d₂, hp₂, hq₂⟩ := h₂
  exact ⟨d₁ ++ d₂, by rw [hp₂, hp₁, List.append_assoc], by rw [hq₂, hq₁, List.append_assoc]⟩

theorem PlainInKept.of_session (hs : Decrypts p q c.session c'.session)
    (hf : c'.fin.finPlainBb = c.fin.finPlainBb) : PlainInKept p q c c' := by
  obtain ⟨d, hp, hq⟩ := hs
  exact ⟨d, hp, by rw [hf, hq, List.append_assoc]⟩

theorem PlainInKept.refl (c : Conn σ ν) : PlainInKept p q c c :=
  .of_session (.of_eq rfl rfl) rfl

theorem PlainInKept.trans (h₁ : PlainInKept p q c c₁) (h₂ : PlainInKept p q c₁ c₂) :
    PlainInKept p q c c₂ := by
  obtain ⟨d₁, hp₁, hq₁⟩ := h₁
  obtain ⟨d₂, hp₂, hq₂⟩ := h₂
  exact ⟨d₁ ++ d₂, by rw [hp₂, hp₁, List.append_assoc], by rw [hq₂, hq₁]; simp⟩

variable {L : Limits} {E : Env σ ν} {fuel : Nat}

theorem PlainInLog.receives (hl : PlainInLog E p q) (h : E.Receives s s') : Decrypts p q s s' := by
  induction h with
  | refl => exact .of_eq rfl rfl
  | readTls _ ih => exact ih.trans (.of_eq (hl.readTls _ _).1 (hl.readTls _ _).2)
  | processNewPackets _ ih => exact ih.trans (hl.processNewPackets _)

theorem PlainInLog.sends (hl : PlainInLog E p q) (h : E.Sends s s') : p s' = p s ∧ q s' = q s := by
  induction h with
  | refl => exact ⟨rfl, rfl⟩
  | write _ ih => exact ⟨(hl.write _ _).1.trans ih.1, (hl.write _ _).2.trans ih.2⟩
  | writeTls _ ih => exact ⟨(hl.writeTls _ _).1.trans ih.1, (hl.writeTls _ _).2.trans ih.2⟩
  | sendCloseNotify _ ih =>
    exact ⟨(hl.sendCloseNotify _).1.trans ih.1, (hl.sendCloseNotify _).2.trans ih.2⟩

theorem SendFrame.plainInKept (hl : PlainInLog E p q) (h : SendFrame E.toServerSession c c') :
    PlainInKept p q c c' :=
  .of_session (.of_eq (hl.sends h.sends).1 (hl.sends h.sends).2) (by rw [h.fin])

theorem readTlsMax_plainInKept (hl : PlainInLog E p q) (h : readTlsMax E fuel c = .ok (rv, c')) :
    PlainInKept p q c c' :=
  .of_session (hl.receives (readTlsMax_receives h).1) (congrArg Prod.fst (readTlsMax_buffers h))

theorem handshakeCleanup_plainInKept (hl : PlainInLog E p q)
    (h : handshakeCleanup L E fuel rv c = .ok (rv', c')) : PlainInKept p q c c' := by
  rcases handshakeCleanup_cases h with rfl | h
  · exact .refl _
  · exact ((filterAbort_safe _).of_ok h).plainInKept hl

theorem filterDoPreHandshake_plainInKept (hl : PlainInLog E p q)
    (h : filterDoPreHandshake L E fuel c = .ok (rv, c')) : PlainInKept p q c c' := by
  rcases filterDoPreHandshake_cases h with rfl | ⟨x, c₁, h₁, ⟨rv₁, s, hs, h₂⟩ | ⟨buf, -, rfl⟩⟩
  · exact .refl _
  all_goals
    have k₁ : PlainInKept p q c c₁ :=
      reflTransGen_invariant (PlainInKept p q c) (fun ⟨_, _, hr⟩ hk => hk.trans (readTlsMax_plainInKept hl hr))
        (preHandshakeLoop_moves h₁) (.of_session (.of_eq rfl rfl) rfl)
    have k₂ : PlainInKept p q c₁ { c₁ with session := (E.connInitServer c₁.session).2 } :=
      .of_session (.of_eq (hl.connInitServer _).1 (hl.connInitServer _).2) rfl
  · refine k₁.trans (PlainInKept.trans ?_ (handshakeCleanup_plainInKept hl h₂))
    rcases hs with rfl | rfl
    · exact .refl _
    · exact k₂
  · exact k₁.trans (.of_session (.of_eq (hl.connInitServer _).1 (hl.connInitServer _).2) rfl)

theorem HandshakeMove.plainInKept (hl : PlainInLog E p q) (h : HandshakeMove L E c c') :
    PlainInKept p q c c' := by
  cases h with
  | read h => exact readTlsMax_plainInKept hl h
  | flush h => exact ((flushTlsFromRustls_safe _).of_ok h).plainInKept hl

theorem filterDoHandshake_plainInKept (hl : PlainInLog E p q)
    (h : filterDoHandshake L E fuel c = .ok (rv, c')) : PlainInKept p q c c' := by
  obtain ⟨⟨rv₁, c₁⟩, h₁, h⟩ := bind_eq_ok.mp h
  refine PlainInKept.trans ?_ (handshakeCleanup_plainInKept hl h)
  split at h₁
  · obtain ⟨⟨rv₂, c₂⟩, h₂, h₁⟩ := bind_eq_ok.mp h₁
    cases h₁
    exact reflTransGen_invariant (PlainInKept p q c) (fun hm hk => hk.trans (hm.plainInKept hl))
      (handshakeLoop_moves h₂) (.refl _)
  · cases h₁
    exact .refl _

theorem inputHandshake_plainInKept (hl : PlainInLog E p q)
    (h : inputHandshake L E fuel c = .ok (rv, c')) : PlainInKept p q c c' :=
  inputHandshake_invariant (PlainInKept p q c) (fun _ _ hk => hk)
    (fun h₀ hk => hk.trans (filterDoPreHandshake_plainInKept hl h₀))
    (fun h₀ hk => hk.trans (filterDoHandshake_plainInKept hl h₀)) h (.refl _)

theorem PlainInLog.drain (hl : PlainInLog E p q) {c : Conn σ ν}
    (hd : (if 0 < c.fin.finBytesInRustls then E.read c.session n else (.ok, [], c.session)) =
      (.ok, plain, s)) : p s = p c.session ∧ q c.session = plain ++ q s := by
  split_ifs at hd
  · exact hl.read_ok _ _ _ _ hd
  · cases hd
    exact ⟨rfl, rfl⟩

theorem PlainInLog.drain_err (hl : PlainInLog E p q) {c : Conn σ ν}
    (hd : (if 0 < c.fin.finBytesInRustls then E.read c.session n else (.ok, [], c.session)) =
      (rr, plain, s)) (hrr : rr ≠ .ok) : p s = p c.session ∧ q s = q c.session := by
  split_ifs at hd
  · cases rr with
    | ok => exact absurd rfl hrr
    | err code => exact hl.read_err _ _ _ _ _ hd
  · cases hd
    exact absurd rfl hrr

theorem FillMove.plainInKept (hl : PlainInLog E p q) (h : FillMove L E c c') : PlainInKept p q c c' := by
  cases h with
  | drainFailed _ hd hrr =>
    have e := hl.drain_err hd hrr
    exact .of_session (.of_eq e.1 e.2) rfl
  | readTls _ hd hr =>
    have e := hl.drain hd
    have k₀ : PlainInKept p q c
        { c with session := _, fin := { c.fin with finBytesInRustls := 0 } } :=
      .of_session (.of_eq e.1 (by rw [e.2, List.nil_append])) rfl
    exact k₀.trans (readTlsMax_plainInKept hl hr)
  | fill hp hd =>
    have e := hl.drain hd
    exact ⟨[], by rw [e.1, List.append_nil], by simp [hp, e.2]⟩

theorem fillLoop_plainInKept (hl : PlainInLog E p q) (h : fillLoop L E fuel c = .ok (rv, rr, c')) :
    PlainInKept p q c c' :=
  reflTransGen_invariant (PlainInKept p q c) (fun hm hk => hk.trans (hm.plainInKept hl))
    (fillLoop_moves h) (.refl _)

theorem inputMode_delivered (h : inputMode L mode readbytes plain = .ok (rv, out, rest)) :
    if mode = .speculative then out <+: rest ∧ rest = plain else out ++ rest = plain := by
  cases mode <;> simp only [inputMode, reduceCtorEq, if_false, if_true] at h ⊢
  case readbytes =>
    obtain ⟨_, -, h⟩ := bind_eq_ok.mp h
    cases h
    exact List.take_append_drop _ _
  case speculative =>
    obtain ⟨_, -, h⟩ := bind_eq_ok.mp h
    cases h
    exact ⟨List.take_prefix _ _, rfl⟩
  all_goals cases h
  case getline => exact List.take_append_drop _ _
  case exhaustive => exact List.append_nil _
  all_goals rfl

theorem PlainInKept.delivered_nil {mode : InputMode} (h : PlainInKept p q c c') :
    ∃ d, p c'.session = p c.session ++ d ∧
      if mode = .speculative then
        [] <+: c'.fin.finPlainBb ∧
          c'.fin.finPlainBb ++ q c'.session = c.fin.finPlainBb ++ q c.session ++ d
      else [] ++ c'.fin.finPlainBb ++ q c'.session = c.fin.finPlainBb ++ q c.session ++ d := by
  obtain ⟨d, hp, hq⟩ := h
  refine ⟨d, hp, ?_⟩
  split_ifs
  · exact ⟨List.nil_prefix, hq⟩
  · rw [List.nil_append, hq]

theorem PlainInKept.delivered_mode {mode : InputMode} {c' : Conn σ ν} (hk : PlainInKept p q c c₂)
    (hm : inputMode L mode readbytes c₂.fin.finPlainBb = .ok (rv, out, plain))
    (hf : c'.fin.finPlainBb = plain) (hs : p c'.session = p c₂.session ∧ q c'.session = q c₂.session) :
    ∃ d, p c'.session = p c.session ++ d ∧
      if mode = .speculative then
        out <+: c'.fin.finPlainBb ∧
          c'.fin.finPlainBb ++ q c'.session = c.fin.finPlainBb ++ q c.session ++ d
      else out ++ c'.fin.finPlainBb ++ q c'.session = c.fin.finPlainBb ++ q c.session ++ d := by
  obtain ⟨d, hp, hq⟩ := hk
  refine ⟨d, hs.1.trans hp, ?_⟩
  have hm := inputMode_delivered hm
  rw [hf, hs.2]
  split_ifs at hm ⊢
  · exact ⟨hm.1, by rw [hm.2, hq]⟩
  · rw [hm, hq]

/-- `filter_conn_input` loses, repeats and reorders no byte the session decrypts. -/
theorem filterConnInput_plain_delivered (hl : PlainInLog E p q)
    (h : filterConnInput L E fuel c mode block readbytes = .ok (rv, out, c')) :
    ∃ d, p c'.session = p c.session ++ d ∧
      if mode = .speculative then
        out <+: c'.fin.finPlainBb ∧
          c'.fin.finPlainBb ++ q c'.session = c.fin.finPlainBb ++ q c.session ++ d
      else out ++ c'.fin.finPlainBb ++ q c'.session = c.fin.finPlainBb ++ q c.session ++ d := by
  unfold filterConnInput at h
  dsimp only at h
  have k₀ : PlainInKept p q c { c with fin := { c.fin with finBlock := block } } :=
    .of_session (.of_eq rfl rfl) rfl
  split_ifs at h
  · obtain ⟨⟨rv₁, c₁⟩, h₁, h⟩ := bind_eq_ok.mp h
    cases h
    exact (k₀.trans (((filterAbort_safe _).of_ok h₁).plainInKept hl)).delivered_nil
  obtain ⟨⟨rv₁, c₁⟩, h₁, h⟩ := bind_eq_ok.mp h
  have k₁ := k₀.trans (inputHandshake_plainInKept hl h₁)
  dsimp only at h
  split_ifs at h
  · cases h
    exact k₁.delivered_nil
  obtain ⟨⟨rv₂, rr, c₂⟩, h₂, h⟩ := bind_eq_ok.mp h
  have k₂ := k₁.trans (fillLoop_plainInKept hl h₂)
  dsimp only at h
  split at h
  · cases h
    exact k₂.delivered_nil
  split_ifs at h
  · cases h
    exact k₂.delivered_nil
  obtain ⟨⟨rv₃, out₃, plain⟩, h₃, h⟩ := bind_eq_ok.mp h
  dsimp only at h
  split_ifs at h
  · cases h
    exact k₂.delivered_mode h₃ rfl ⟨rfl, rfl⟩
  · obtain ⟨⟨rv₄, c₄⟩, h₄, h⟩ := bind_eq_ok.mp h
    cases h
    have f := (writeAllTlsFromRustls_safe _).of_ok h₄
    exact k₂.delivered_mode h₃ (congrArg FinCtx.finPlainBb f.fin) (hl.sends f.sends)

end

/-- Calls of the filters in any interleaving, with what the consuming reads returned. -/
inductive Delivers (L : Limits) (E : Env σ ν) (c : Conn σ ν) : List UInt8 → Conn σ ν → Prop
  | refl : Delivers L E c [] c
  | read : Delivers L E c outs c₁ → mode ≠ .speculative →
      filterConnInput L E fuel c₁ mode block readbytes = .ok (rv, out, c₂) →
      Delivers L E c (outs ++ out) c₂
  | peek : Delivers L E c outs c₁ →
      filterConnInput L E fuel c₁ .speculative block readbytes = .ok (rv, out, c₂) →
      Delivers L E c outs c₂
  | write : Delivers L E c outs c₁ → filterConnOutput L E fuel c₁ bb = .ok (rv, bb', c₂) →
      Delivers L E c outs c₂

section
variable {L : Limits} {E : Env σ ν} {p q : σ → List UInt8}

theorem Delivers.reaches (h : Delivers L E c outs c') : Reaches L E c c' := by
  induction h with
  | refl => exact .refl
  | read _ _ h ih | peek _ h ih => exact .call ih (show connCall _ _ _ _ (.input _ _ _) = _ by rw [connCall, h]; rfl)
  | write _ h ih => exact .call ih (show connCall _ _ _ _ (.output _) = _ by rw [connCall, h]; rfl)

theorem delivered_append {outs out fin fin₁ fin₂ qs qs₁ qs₂ d₁ d₂ : List UInt8}
    (h₁ : outs ++ fin₁ ++ qs₁ = fin ++ qs ++ d₁) (h₂ : out ++ fin₂ ++ qs₂ = fin₁ ++ qs₁ ++ d₂) :
    outs ++ out ++ fin₂ ++ qs₂ = fin ++ qs ++ (d₁ ++ d₂) :=
  calc outs ++ out ++ fin₂ ++ qs₂ = outs ++ (out ++ fin₂ ++ qs₂) := by simp only [List.append_assoc]
    _ = outs ++ fin₁ ++ qs₁ ++ d₂ := by rw [h₂]; simp only [List.append_assoc]
    _ = fin ++ qs ++ (d₁ ++ d₂) := by rw [h₁, List.append_assoc]

theorem Delivers.plain_kept (hl : PlainInLog E p q) (hr : Reachable L E c)
    (h : Delivers L E c outs c') :
    ∃ d, p c'.session = p c.session ++ d ∧
      outs ++ c'.fin.finPlainBb ++ q c'.session = c.fin.finPlainBb ++ q c.session ++ d := by
  induction h with
  | refl => exact ⟨[], by simp, by simp⟩
  | read _ hm h ih =>
    obtain ⟨d₁, hp₁, hq₁⟩ := ih
    obtain ⟨d₂, hp₂, hq₂⟩ := filterConnInput_plain_delivered hl h
    rw [if_neg hm] at hq₂
    exact ⟨d₁ ++ d₂, by rw [hp₂, hp₁, List.append_assoc], delivered_append hq₁ hq₂⟩
  | peek _ h ih =>
    obtain ⟨d₁, hp₁, hq₁⟩ := ih
    obtain ⟨d₂, hp₂, -, hq₂⟩ := filterConnInput_plain_delivered hl h
    have hq₂' : [] ++ _ ++ _ = _ := hq₂
    exact ⟨d₁ ++ d₂, by rw [hp₂, hp₁, List.append_assoc],
      by simpa only [List.append_nil] using delivered_append hq₁ hq₂'⟩
  | write hd h ih =>
    have f := (filterConnOutput_safe ((hr.reaches hd.reaches).buffersBounded).1).of_ok h
    obtain ⟨hp₂, hq₂⟩ := hl.sends f.sends
    rw [hp₂, hq₂, f.fin]
    exact ih

/-- From a fresh connection, the application's stream is exactly what the session decrypted. -/
theorem Delivers.plain_stream_fresh (hl : PlainInLog E p q) (hp : p session = [])
    (hq : q session = []) (h : Delivers L E (tlsFilterConnInit L session net) outs c') :
    outs ++ c'.fin.finPlainBb ++ q c'.session = p c'.session := by
  obtain ⟨d, hp', hq'⟩ := h.plain_kept hl (.init _ _)
  rw [hp', hq']
  simp [tlsFilterConnInit, hp, hq]

end

/-- A session that counts three handshake bytes, then decrypts every byte it is fed. -/
structure StreamSession where
  tlsIn : List UInt8
  handshake : Nat
  decrypted : List UInt8
  plain : List UInt8
  fed : List UInt8
  deriving DecidableEq, Repr

/-- `StreamSession`s over filters below that answer `ap_get_brigade` from a script. -/
def streamEnv : Env StreamSession (List (AprStatus × List InBucket)) where
  isHandshaking s := s.handshake < 3
  wantsRead _ := true
  wantsWrite _ := false
  readTls s data := (.ok, data.length, { s with tlsIn := s.tlsIn ++ data, fed := s.fed ++ data })
  processNewPackets s := (.ok,
    { s with
      tlsIn := [], handshake := s.handshake + min (3 - s.handshake) s.tlsIn.length
      decrypted := s.decrypted ++ s.tlsIn.drop (3 - s.handshake)
      plain := s.plain ++ s.tlsIn.drop (3 - s.handshake) })
  read s n := (.ok, s.plain.take n, { s with plain := s.plain.drop n })
  write s data := (.ok, data.length, s)
  writeTls s _ := (.ok, [], s)
  sendCloseNotify s := s
  readTls_le _ _ := le_refl _
  read_le s n := List.length_take_le n s.plain
  write_le _ _ := le_refl _
  writeTls_le _ _ := Nat.zero_le _
  getBrigade n _ _ := match n with
    | r :: rest => (r.1, r.2, rest)
    | [] => (.eof, [], [])
  passBrigade n _ := (.success, false, n)
  fileRead n bytes := (.success, bytes.length, n)
  fileRead_le _ _ := le_refl _
  clientHelloSeen s := 2 ≤ s.handshake
  connInitServer s := (.success, { s with tlsIn := [], handshake := 0, fed := [] })
  connPostHandshake _ := .success

theorem streamEnv_plainInLog : PlainInLog streamEnv StreamSession.decrypted StreamSession.plain where
  processNewPackets s := ⟨s.tlsIn.drop (3 - s.handshake), rfl, rfl⟩
  read_ok s n out s' h := by
    simp only [streamEnv, Prod.mk.injEq, true_and] at h
    obtain ⟨rfl, rfl⟩ := h
    exact ⟨rfl, (List.take_append_drop _ _).symm⟩
  read_err s n code out s' h := by cases h
  readTls _ _ := ⟨rfl, rfl⟩
  write _ _ := ⟨rfl, rfl⟩
  writeTls _ _ := ⟨rfl, rfl⟩
  sendCloseNotify _ := ⟨rfl, rfl⟩
  connInitServer _ := ⟨rfl, rfl⟩

/-- A connection of `streamEnv` whose client sends a client hello, then two bytes of data. -/
def streamConn : Conn StreamSession (List (AprStatus × List InBucket)) :=
  tlsFilterConnInit unitLimits ⟨[], 0, [], [], []⟩ [(.success, [.data [22, 22, 22]]), (.success, [.data [7, 8]])]

/-- After the handshake, a one-byte read hands out the first byte of data. -/
theorem filterConnInput_plain_delivered_first_byte :
    let c₁ : Conn StreamSession (List (AprStatus × List InBucket)) :=
      { streamConn with
        state := .traffic, session := ⟨[], 3, [], [], [22, 22, 22]⟩
        fin := { streamConn.fin with finBytesInRustls := 6 }, net := [(.success, [.data [7, 8]])] }
    let c₂ : Conn StreamSession (List (AprStatus × List InBucket)) :=
      { c₁ with session := ⟨[], 3, [7, 8], [8], [22, 22, 22, 7, 8]⟩, fin := { c₁.fin with finBytesInRustls := 2 }, net := [] }
    PlainInLog streamEnv StreamSession.decrypted StreamSession.plain ∧
      filterConnInput unitLimits streamEnv 4 c₁ .readbytes .block 1 = .ok (.success, [7], c₂) ∧
      ∃ d, c₂.session.decrypted = c₁.session.decrypted ++ d ∧
        [7] ++ c₂.fin.finPlainBb ++ c₂.session.plain = c₁.fin.finPlainBb ++ c₁.session.plain ++ d := by
  intro c₁ c₂
  have h : filterConnInput unitLimits streamEnv 4 c₁ .readbytes .block 1 = .ok (.success, [7], c₂) := rfl
  obtain ⟨d, hp, hq⟩ := filterConnInput_plain_delivered streamEnv_plainInLog h
  exact ⟨streamEnv_plainInLog, h, d, hp, hq⟩

/-- `INIT` and a one-byte read: what was handed out and what is left were decrypted. -/
theorem plain_stream_fresh_two_calls :
    let c₂ : Conn StreamSession (List (AprStatus × List InBucket)) :=
      { streamConn with
        state := .traffic, session := ⟨[], 3, [7, 8], [8], [22, 22, 22, 7, 8]⟩
        fin := { streamConn.fin with finBytesInRustls := 2 }, net := [] }
    PlainInLog streamEnv StreamSession.decrypted StreamSession.plain ∧
      Delivers unitLimits streamEnv streamConn [7] c₂ ∧
      [7] ++ c₂.fin.finPlainBb ++ c₂.session.plain = c₂.session.decrypted := by
  intro c₂
  let c₁ : Conn StreamSession (List (AprStatus × List InBucket)) :=
    { streamConn with
      state := .traffic, session := ⟨[], 3, [], [], [22, 22, 22]⟩
      fin := { streamConn.fin with finBytesInRustls := 6 }, net := [(.success, [.data [7, 8]])] }
  have h₁ : filterConnInput unitLimits streamEnv 4 streamConn .init .block 0 = .ok (.success, [], c₁) :=
    rfl
  have h₂ : filterConnInput unitLimits streamEnv 4 c₁ .readbytes .block 1 = .ok (.success, [7], c₂) :=
    rfl
  have hd : Delivers unitLimits streamEnv streamConn ([] ++ [] ++ [7]) c₂ :=
    .read (.read .refl (by decide) h₁) (by decide) h₂
  exact ⟨streamEnv_plainInLog, hd, Delivers.plain_stream_fresh streamEnv_plainInLog rfl rfl hd⟩

end ModTls
