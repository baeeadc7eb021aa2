import ModTls.TlsStream

namespace ModTls
set_option autoImplicit true

/-- What `rustls_server_session_write` has taken so far (`w`), and how the session's calls move it. -/
structure PlainOutLog (E : Env σ ν) (w : σ → List UInt8) : Prop where
  write_ok : ∀ s data n s', E.write s data = (.ok, n, s') → w s' = w s ++ data.take n
  write_err : ∀ s data code n s', E.write s data = (.err code, n, s') → w s' = w s
  writeTls : ∀ s n, w (E.writeTls s n).2.2 = w s
  sendCloseNotify : ∀ s, w (E.sendCloseNotify s) = w s

/-- `apr_file_read` reads the whole range of a file bucket whenever it does not fail. -/
def FileReadsWhole (E : Env σ ν) : Prop :=
  ∀ n bytes, (E.fileRead n bytes).1 = .success ∨ (E.fileRead n bytes).1 = .eof →
    (E.fileRead n bytes).2.1 = bytes.length

/-- The output side's application data: what the session took, the buffer, then the brigade's data. -/
def Conn.plainOut (w : σ → List UInt8) (c : Conn σ ν) (bb : List OutBucket) : List UInt8 :=
  w c.session ++ c.fout.foutBufPlain ++ outBytes bb

theorem OutBucket.data_withBytes {b : OutBucket} (hl : b.length = some dlen) (hm : b.isMetadata = false) :
    (b.withBytes x).data = x ∧ b.bytes = b.data := by
  cases b <;> simp_all [OutBucket.length, OutBucket.isMetadata, OutBucket.withBytes, OutBucket.data,
    OutBucket.bytes]

theorem bucketSplit_data (hl : b.length = some dlen) (hm : b.isMetadata = false) :
    (bucketSplit b dlen bufRemain rest).1 ++ outBytes (bucketSplit b dlen bufRemain rest).2 =
      outBytes (b :: rest) := by
  obtain ⟨hw, hb⟩ := OutBucket.data_withBytes (x := b.data.drop bufRemain) hl hm
  unfold bucketSplit
  split_ifs
  · simp only [outBytes_cons, hb, hw]
    rw [← List.append_assoc, List.take_append_drop]
  · simp [hb]

section
variable {L : Limits} {E : Env σ ν} {fuel : Nat} {w : σ → List UInt8}

theorem foutPlainBufToRustls_plainOut (hl : PlainOutLog E w)
    (h : foutPlainBufToRustls E.toServerSession fout s = (rv, fout', s')) :
    w s' ++ fout'.foutBufPlain = w s ++ fout.foutBufPlain := by
  unfold foutPlainBufToRustls at h
  split_ifs at h
  · rcases hw : E.write s fout.foutBufPlain with ⟨rr, wlen, s₁⟩
    rw [hw] at h
    rcases rr with _ | code <;> dsimp only at h
    · have ht := hl.write_ok _ _ _ _ hw
      split_ifs at h with h₁ h₂ <;> cases h
      · rw [ht, List.take_of_length_le h₁, List.append_nil]
      · rw [ht, h₂, List.take_zero, List.append_nil]
      · rw [ht, List.append_assoc, List.take_append_drop]
    · cases h
      rw [hl.write_err _ _ _ _ _ hw]
  · cases h
    rfl

theorem brigadeTlsLoop_plainOut (hl : PlainOutLog E w)
    (h : brigadeTlsLoop L E.toServerSession fuel fout s = .ok (rr, fout', s')) :
    w s' = w s ∧ fout'.foutBufPlain = fout.foutBufPlain := by
  induction fuel generalizing fout s with
  | zero => cases h
  | succ fuel ih =>
    rw [brigadeTlsLoop] at h
    split at h
    next heq =>
      cases h
      exact ⟨by rw [← hl.writeTls s, heq], rfl⟩
    next out s₁ heq =>
      have h₁ : w s₁ = w s := by rw [← hl.writeTls s, heq]
      dsimp only at h
      split at h
      · exact (ih h).imp (·.trans h₁) id
      · cases h
        exact ⟨h₁, rfl⟩

theorem brigadeTlsFromRustls_plainOut (hl : PlainOutLog E w)
    (h : brigadeTlsFromRustls L E.toServerSession fuel fout s = .ok (rv, fout', s')) :
    w s' = w s ∧ fout'.foutBufPlain = fout.foutBufPlain := by
  unfold brigadeTlsFromRustls at h
  split at h
  · obtain ⟨⟨rr, fout₁, s₁⟩, h₁, h⟩ := bind_eq_ok.mp h
    have := brigadeTlsLoop_plainOut hl h₁
    rcases rr with _ | code <;> cases h <;> exact this
  · cases h
    exact ⟨rfl, rfl⟩

theorem writeAllTlsFromRustls_plainOut (hl : PlainOutLog E w)
    (h : writeAllTlsFromRustls L E fuel c = .ok (rv, c')) :
    w c'.session = w c.session ∧ c'.fout.foutBufPlain = c.fout.foutBufPlain := by
  obtain ⟨⟨rv₁, fout, s⟩, h₁, h⟩ := bind_eq_ok.mp h
  have := brigadeTlsFromRustls_plainOut hl h₁
  dsimp only at h
  split_ifs at h <;> cases h <;> exact this

theorem foutAppendBytes_plainOut (hl : PlainOutLog E w) (hfile : FileReadsWhole E)
    (hw : ∀ x, (b.withBytes x).data = x)
    (h : foutAppendBytes L E c b bytes rest bufRemain = .ok (rv, n, bb, c')) :
    c'.plainOut w bb = w c.session ++ c.fout.foutBufPlain ++ bytes ++ outBytes rest := by
  unfold foutAppendBytes at h
  split at h
  · obtain ⟨_, -, h⟩ := bind_eq_ok.mp h
    rcases hf : E.fileRead c.net bytes with ⟨rv₁, k, net⟩
    have hk := hfile c.net bytes
    rw [hf] at hk
    simp only [hf] at h
    split_ifs at h with he <;> cases h
    · simp [Conn.plainOut, OutBucket.data]
    · rw [not_and_or, not_not, not_not] at he
      have hn : n = bytes.length := hk he
      simp [Conn.plainOut, hn]
  · split_ifs at h with hd
    · have h0 : c.fout.foutBufPlain = [] := List.length_eq_zero.mp hd.1
      rcases hwr : E.write c.session bytes with ⟨rr, wlen, s⟩
      rw [hwr] at h
      rcases rr with _ | code <;> cases h
      · rw [Conn.plainOut, hl.write_ok _ _ _ _ hwr]
        split_ifs with hle
        · simp [List.take_of_length_le hle, h0]
        · simp only [h0, outBytes_cons, hw, List.append_nil, List.nil_append, List.append_assoc]
          rw [← List.append_assoc (List.take _ _), List.take_append_drop]
      · simp [Conn.plainOut, hl.write_err _ _ _ _ _ hwr, hw]
    · obtain ⟨_, -, h⟩ := bind_eq_ok.mp h
      cases h
      simp [Conn.plainOut]

theorem pipeRead_chunks_eq_nil (h : (pipeRead chunks last).1 ≠ .success) : chunks = [] := by
  cases chunks with
  | nil => rfl
  | cons => exact absurd rfl h

theorem pipeRead_data_of_eq (h : pipeRead chunks last = (rv, bytes, follow)) :
    bytes ++ outBytes follow = chunks.flatten := by
  simpa [h] using @pipeRead_data chunks last

theorem PlainOutLog.outputSteps (hl : PlainOutLog E w) (hfile : FileReadsWhole E) :
    OutputSteps L E fun c bb c' bb' => c'.plainOut w bb' = c.plainOut w bb where
  refl _ _ := rfl
  trans h₁ h₂ := h₂.trans h₁
  sendCloseNotify _ _ := by simp only [Conn.plainOut, hl.sendCloseNotify]
  plainBufToRustls hp := by simp only [Conn.plainOut, foutPlainBufToRustls_plainOut hl hp]
  brigade h := by
    obtain ⟨hw, hb⟩ := brigadeTlsFromRustls_plainOut hl h
    simp only [Conn.plainOut, hw, hb]
  writeAll h := by
    obtain ⟨hw, hb⟩ := writeAllTlsFromRustls_plainOut hl h
    simp only [Conn.plainOut, hw, hb]
  forward hmeta := by simp [Conn.plainOut, OutBucket.data_eq_nil_of_isMetadata hmeta]
  pipeEof hp := by
    have : _ = [] := pipeRead_chunks_eq_nil (by rw [hp]; exact nofun)
    simp [Conn.plainOut, OutBucket.data, this]
  pipeRead hp := by simp [Conn.plainOut, OutBucket.data, ← pipeRead_data_of_eq hp]
  appendBytes hdl hm h := by
    rw [foutAppendBytes_plainOut hl hfile (fun _ => (OutBucket.data_withBytes hdl hm).1) h,
      List.append_assoc, bucketSplit_data hdl hm, Conn.plainOut]

theorem outputLoop_success (h : outputLoop L E fuel bb c = .ok (.success, bb', c')) : bb' = [] := by
  induction fuel generalizing bb c with
  | zero => cases h
  | succ fuel ih =>
    cases bb with
    | nil =>
      cases h
      rfl
    | cons b rest =>
      rw [outputLoop] at h
      obtain ⟨⟨rv₁, cont, bb₁, c₁⟩, h₁, h⟩ := bind_eq_ok.mp h
      dsimp only at h
      split_ifs at h with hr
      · cases h
        exact absurd rfl hr
      · exact ih h
      · obtain ⟨⟨rv₂, c₂⟩, h₂, h⟩ := bind_eq_ok.mp h
        dsimp only at h
        split_ifs at h with hr₂
        · cases h
          exact absurd rfl hr₂
        · exact ih h

/-- `filter_conn_output` loses, repeats and reorders no application byte. -/
theorem filterConnOutput_plain_conserved (hl : PlainOutLog E w) (hfile : FileReadsWhole E)
    (ha : c.aborted = false) (hd : c.state ≠ .done)
    (h : filterConnOutput L E fuel c bb = .ok (rv, bb', c')) :
    w c'.session ++ c'.fout.foutBufPlain ++ outBytes bb' =
        w c.session ++ c.fout.foutBufPlain ++ outBytes bb ∧
      (rv = .success → bb' = []) := by
  refine ⟨(hl.outputSteps hfile).filterConnOutput ha hd h, fun hr => ?_⟩
  unfold filterConnOutput at h
  rw [if_neg (by simp [ha]), if_neg hd] at h
  obtain ⟨⟨rv₁, bb₁, c₁⟩, h₁, h⟩ := bind_eq_ok.mp h
  dsimp only at h
  split_ifs at h with hr₁
  · cases h
    exact absurd hr hr₁
  · obtain ⟨_, -, h⟩ := bind_eq_ok.mp h
    cases h
    exact outputLoop_success (not_not.mp hr₁ ▸ h₁)

end

theorem echoEnv_plainOutLog : PlainOutLog echoEnv EchoSession.written where
  write_ok s data n s' h := by cases h; simp
  write_err s data code n s' h := by cases h
  writeTls _ _ := rfl
  sendCloseNotify _ := rfl

theorem echoEnv_fileReadsWhole : FileReadsWhole echoEnv := fun _ _ _ => rfl

/-- A heap bucket, a file bucket and a FLUSH: all three bytes reach the session in order. -/
theorem filterConnOutput_plain_conserved_echo :
    let c' : Conn EchoSession (List OutBucket) :=
      { echoConn with
        session := ⟨[], [], [], [1, 2, 3], [], [1, 2, 3]⟩
        net := [.heap [1], .heap [2], .heap [3], .flush] }
    PlainOutLog echoEnv EchoSession.written ∧ FileReadsWhole echoEnv ∧
      echoConn.aborted = false ∧ echoConn.state ≠ .done ∧
      filterConnOutput unitLimits echoEnv 8 echoConn [.heap [1, 2], .file [3], .flush] =
        .ok (.success, [], c') ∧
      c'.session.written ++ c'.fout.foutBufPlain ++ outBytes [] =
          echoConn.session.written ++ echoConn.fout.foutBufPlain ++
            outBytes [.heap [1, 2], .file [3], .flush] ∧
        (AprStatus.success = .success → ([] : List OutBucket) = []) := by
  intro c'
  have h : filterConnOutput unitLimits echoEnv 8 echoConn [.heap [1, 2], .file [3], .flush] =
      .ok (.success, [], c') := rfl
  exact ⟨echoEnv_plainOutLog, echoEnv_fileReadsWhole, rfl, nofun, h,
    filterConnOutput_plain_conserved echoEnv_plainOutLog echoEnv_fileReadsWhole rfl nofun h⟩

end ModTls
