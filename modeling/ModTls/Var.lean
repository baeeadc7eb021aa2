import ModTls.Core
import ModTls.Conn

namespace ModTls
set_option autoImplicit true

/-- The fields of a `tls_conf_conn_t` that `tls_var.c` reads, and its `subprocess_env`. -/
structure VarConn where
  state : ConnState
  tlsProtocolName : Option String
  tlsCipherName : Option String
  sniHostname : Option String
  clientCert : Bool
  subprocessEnv : Option (List (String × String))
  deriving DecidableEq, Repr

/-- The keys of an `apr_table_t` compare as `strcasecmp` does: equal up to ASCII case. -/
def aprKeyEq (a b : String) : Bool :=
  a.data.map Char.toLower == b.data.map Char.toLower

/-- `apr_table_get`: the value of the first entry under `key`. -/
def aprTableGet (t : List (String × String)) (key : String) : Option String :=
  (t.find? fun e => aprKeyEq e.1 key).map Prod.snd

/-- `apr_table_setn`: `key` holds `val`, and no other entry is left under `key`. -/
def aprTableSetn (t : List (String × String)) (key val : String) : List (String × String) :=
  t.filter (fun e => !aprKeyEq e.1 key) ++ [(key, val)]

/-- One step of `apr_table_compress(APR_OVERLAP_TABLES_SET)`: the first entry of `e`'s key takes its value, or `e` is appended. -/
def aprTableCompressSet (t : List (String × String)) (e : String × String) : List (String × String) :=
  if t.any (fun x => aprKeyEq x.1 e.1) then t.map fun x => (x.1, if aprKeyEq x.1 e.1 then e.2 else x.2)
  else t ++ [e]

/-- `apr_table_compress(t, APR_OVERLAP_TABLES_SET)`: one entry per key, in place, with the last value. -/
def aprTableCompress (t : List (String × String)) : List (String × String) :=
  t.foldl aprTableCompressSet []

/-- `apr_table_overlap(a, b, APR_OVERLAP_TABLES_SET)`: `apr_table_cat`, then `apr_table_compress`. -/
def aprTableOverlap (a b : List (String × String)) : List (String × String) :=
  aprTableCompress (a ++ b)

/-- `apr_hash_get` with `APR_HASH_KEY_STRING`: the value under exactly `key`. -/
def aprHashGet (m : List (String × α)) (key : String) : Option α :=
  (m.find? fun e => e.1 == key).map Prod.snd

/-- `apr_hash_set`. -/
def aprHashSet (m : List (String × α)) (key : String) (val : α) : List (String × α) :=
  (key, val) :: m.filter (fun e => e.1 != key)

/-- `var_def_t`: a variable's name and the function that computes it. -/
structure VarDef where
  name : String
  fn : VarConn → Option String

def varGetSslProtocol (cc : VarConn) : Option String := cc.tlsProtocolName

def varGetSslCipher (cc : VarConn) : Option String := cc.tlsCipherName

def varGetSniHostname (cc : VarConn) : Option String := cc.sniHostname

def varGetClientSDnCn (cc : VarConn) : Option String :=
  if cc.clientCert then some "Not Implemented" else none

/-- `VAR_DEFS`. -/
def varDefs : List VarDef :=
  [⟨"SSL_PROTOCOL", varGetSslProtocol⟩, ⟨"SSL_CIPHER", varGetSslCipher⟩,
    ⟨"SSL_TLS_SNI", varGetSniHostname⟩, ⟨"SSL_CLIENT_S_DN_CN", varGetClientSDnCn⟩]

/-- `TlsAlwaysVars`. -/
def tlsAlwaysVars : List String := ["SSL_TLS_SNI", "SSL_PROTOCOL", "SSL_CIPHER", "SSL_CLIENT_S_DN_CN"]

/-- `StdEnvVars`, which is empty. -/
def stdEnvVars : List String := []

/-- `tls_var_init_lookup_hash`. -/
def tlsVarInitLookupHash (map : List (String × VarDef)) : List (String × VarDef) :=
  varDefs.foldl (fun m d => aprHashSet m d.name d) map

/-- The global `var_lookups`, filled by `tls_var_init_lookup_hash` at start-up. -/
def varLookups : List (String × VarDef) := tlsVarInitLookupHash []

/-- `val && *val`: a C string that is set and not empty. -/
def cStrSet : Option String → Bool
  | some v => v != ""
  | none => false

/-- `invoke`: the cached value when set and not empty, else the variable's function. -/
def invoke (d : VarDef) : Option VarConn → Option String
  | some cc =>
    if cc.state ≠ .ignored then
      let val := cc.subprocessEnv.bind fun env => aprTableGet env d.name
      if cStrSet val then val else d.fn cc
    else none
  | none => none

/-- `set_var`: put the variable `name` into `table` when it has a value that is not empty. -/
def setVar (lookups : List (String × VarDef)) (cc : Option VarConn) (name : String)
    (table : List (String × String)) : List (String × String) :=
  match aprHashGet lookups name with
  | some d =>
    match invoke d cc with
    | some val => if val = "" then table else aprTableSetn table name val
    | none => table
  | none => table

/-- `tls_var_lookup`, with the `tls_conf_conn_t` of the connection (or of `c->master`) as `cc`. -/
def tlsVarLookup (lookups : List (String × VarDef)) (cc : Option VarConn) (name : String) :
    Option String :=
  match aprHashGet lookups name with
  | some d => invoke d cc
  | none => none

/-- `tls_var_handshake_done`: cache `HTTPS` and `TlsAlwaysVars`, or clear the cache if ignored. -/
def tlsVarHandshakeDone (lookups : List (String × VarDef)) (cc : VarConn) : AprStatus × VarConn :=
  if cc.state = .ignored then (.success, { cc with subprocessEnv := none })
  else
    let env := aprTableSetn [] "HTTPS" "on"
    let env := tlsAlwaysVars.foldl (fun env name => setVar lookups (some cc) name env) env
    (.success, { cc with subprocessEnv := some env })

/-- `tls_var_request_fixup`: overlay the cached variables, then set `StdEnvVars` if enabled. -/
def tlsVarRequestFixup (lookups : List (String × VarDef)) (cc : Option VarConn) (stdEnvVarsOn : TlsFlag)
    (env : List (String × String)) : HookResult × List (String × String) :=
  match cc with
  | some c₀ =>
    if c₀.state = .ignored then (.declined, env)
    else
      let env := match c₀.subprocessEnv with
        | some e => aprTableOverlap env e
        | none => env
      (.declined,
        if stdEnvVarsOn = .true then stdEnvVars.foldl (fun t name => setVar lookups cc name t) env
        else env)
  | none => (.declined, env)

theorem aprKeyEq_iff : aprKeyEq a b = true ↔ a.data.map Char.toLower = b.data.map Char.toLower := by
  simp [aprKeyEq]

theorem aprKeyEq_trans (h₁ : aprKeyEq a b = true) (h₂ : aprKeyEq b c = true) : aprKeyEq a c = true :=
  aprKeyEq_iff.mpr ((aprKeyEq_iff.mp h₁).trans (aprKeyEq_iff.mp h₂))

theorem aprKeyEq_symm (h : aprKeyEq a b = true) : aprKeyEq b a = true :=
  aprKeyEq_iff.mpr (aprKeyEq_iff.mp h).symm

theorem aprKeyEq_refl (a : String) : aprKeyEq a a = true := by
  simp [aprKeyEq]

theorem aprKeyEq_congr (h : aprKeyEq a b = true) : aprKeyEq c a = aprKeyEq c b :=
  Bool.eq_iff_iff.mpr (by rw [aprKeyEq_iff, aprKeyEq_iff, aprKeyEq_iff.mp h])

theorem find?_filter_of_imp {p q : α → Bool} (h : ∀ x, p x = true → q x = true) (l : List α) :
    (l.filter q).find? p = l.find? p := by
  induction l with
  | nil => rfl
  | cons x l ih =>
    by_cases hp : p x = true
    · simp [List.filter_cons, h x hp, List.find?_cons, hp]
    · by_cases hq : q x = true <;> simp [List.filter_cons, hq, List.find?_cons, hp, ih]

theorem aprTableGet_setn :
    aprTableGet (aprTableSetn t key val) k = if aprKeyEq key k then some val else aprTableGet t k := by
  unfold aprTableGet aprTableSetn
  rw [List.find?_append]
  by_cases hk : aprKeyEq key k = true
  · rw [List.find?_eq_none.mpr fun e he hp =>
      by simp [(List.mem_filter.mp he).2, aprKeyEq_trans hp (aprKeyEq_symm hk)] at he]
    simp [hk]
  · rw [find?_filter_of_imp fun e he => by
      simpa using fun h => hk (aprKeyEq_trans (aprKeyEq_symm h) he)]
    simp [hk]

theorem aprTableGet_cons :
    aprTableGet (e :: t) k = if aprKeyEq e.1 k then some e.2 else aprTableGet t k := by
  by_cases h : aprKeyEq e.1 k <;> simp [aprTableGet, List.find?_cons, h]

@[simp] theorem aprTableGet_nil : aprTableGet [] k = none := rfl

theorem aprTableGet_append : aprTableGet (l ++ m) k = (aprTableGet l k).or (aprTableGet m k) := by
  unfold aprTableGet
  rw [List.find?_append]
  cases l.find? fun e => aprKeyEq e.1 k <;> rfl

theorem aprTableGet_eq_none : aprTableGet t k = none ↔ ∀ x ∈ t, aprKeyEq x.1 k = false := by
  simp [aprTableGet]

theorem aprKeyEq_comm (a b : String) : aprKeyEq a b = aprKeyEq b a :=
  Bool.eq_iff_iff.mpr ⟨aprKeyEq_symm, aprKeyEq_symm⟩

theorem aprTableGet_map_set :
    aprTableGet (t.map fun x => (x.1, if aprKeyEq x.1 key then v else x.2)) k =
      if aprKeyEq key k then (aprTableGet t k).map fun _ => v else aprTableGet t k := by
  induction t with
  | nil => simp
  | cons x t ih =>
    simp only [List.map_cons, aprTableGet_cons, ih]
    by_cases hx : aprKeyEq x.1 k
    · rw [if_pos hx, if_pos hx, aprKeyEq_comm, aprKeyEq_congr hx]
      split_ifs <;> rfl
    · simp only [hx, if_false, Bool.false_eq_true]

theorem aprTableGet_compressSet :
    aprTableGet (aprTableCompressSet t e) k = if aprKeyEq e.1 k then some e.2 else aprTableGet t k := by
  unfold aprTableCompressSet
  split_ifs with ht hk hk'
  · obtain ⟨x, hx, hxe⟩ := List.any_eq_true.mp ht
    obtain ⟨w, hw⟩ := Option.ne_none_iff_exists'.mp fun h : aprTableGet t k = none =>
      absurd (aprTableGet_eq_none.mp h x hx) (by simp [aprKeyEq_trans hxe hk])
    rw [aprTableGet_map_set, if_pos hk, hw]
    rfl
  · rw [aprTableGet_map_set, if_neg hk]
  · have hnone : aprTableGet t k = none := aprTableGet_eq_none.mpr fun x hx =>
      (aprKeyEq_congr hk').symm.trans (Bool.eq_false_iff.mpr fun h => ht (List.any_eq_true.mpr ⟨x, hx, h⟩))
    simp [aprTableGet_append, aprTableGet_cons, hnone, hk']
  · simp [aprTableGet_append, aprTableGet_cons, hk']

theorem aprTableGet_compress : aprTableGet (aprTableCompress t) k = aprTableGet t.reverse k := by
  suffices ∀ acc, aprTableGet (t.foldl aprTableCompressSet acc) k = aprTableGet (t.reverse ++ acc) k by
    simpa using this []
  induction t with
  | nil => simp
  | cons e t ih =>
    intro acc
    rw [List.foldl_cons, ih, List.reverse_cons, List.append_assoc, List.singleton_append,
      aprTableGet_append, aprTableGet_append, aprTableGet_compressSet, aprTableGet_cons]

theorem aprTableGet_overlap :
    aprTableGet (aprTableOverlap a b) k = (aprTableGet b.reverse k).or (aprTableGet a.reverse k) := by
  rw [aprTableOverlap, aprTableGet_compress, List.reverse_append, aprTableGet_append]

/-- No two entries of a table share a key up to case, as `apr_table_setn` leaves it. -/
def AprKeysDistinct (t : List (String × String)) : Prop :=
  t.Pairwise fun x y => aprKeyEq x.1 y.1 = false

theorem aprTableSetn_distinct (h : AprKeysDistinct t) : AprKeysDistinct (aprTableSetn t key val) := by
  unfold AprKeysDistinct aprTableSetn
  refine List.pairwise_append.mpr ⟨h.filter _, List.pairwise_singleton _ _, fun x hx y hy => ?_⟩
  simp_all

theorem aprTableCompressSet_distinct (h : AprKeysDistinct t) :
    AprKeysDistinct (aprTableCompressSet t e) := by
  unfold aprTableCompressSet
  split_ifs with ht
  · exact List.pairwise_map.mpr h
  · refine List.pairwise_append.mpr ⟨h, List.pairwise_singleton _ _, fun x hx y hy => ?_⟩
    rw [List.mem_singleton.mp hy]
    simpa using fun h => ht (List.any_eq_true.mpr ⟨x, hx, h⟩)

theorem aprTableCompress_distinct : AprKeysDistinct (aprTableCompress t) := by
  suffices ∀ acc, AprKeysDistinct acc → AprKeysDistinct (t.foldl aprTableCompressSet acc) from
    this [] List.Pairwise.nil
  induction t with
  | nil => exact fun _ h => h
  | cons e t ih => exact fun acc h => ih _ (aprTableCompressSet_distinct h)

theorem aprTableGet_reverse (h : AprKeysDistinct t) : aprTableGet t.reverse k = aprTableGet t k := by
  induction t with
  | nil => rfl
  | cons e t ih =>
    obtain ⟨he, ht⟩ := List.pairwise_cons.mp h
    rw [List.reverse_cons, aprTableGet_append, ih ht, aprTableGet_cons, aprTableGet_cons]
    by_cases hk : aprKeyEq e.1 k
    · have hnone : aprTableGet t k = none := aprTableGet_eq_none.mpr fun y hy =>
        (aprKeyEq_congr hk).symm.trans ((aprKeyEq_comm _ _).trans (he y hy))
      simp [hk, hnone]
    · simp [hk]

theorem cStrSet_or (x e : Option String) :
    (if cStrSet x then x else none).or e = if cStrSet x then x else e := by
  cases x with
  | none => rfl
  | some v => by_cases hv : cStrSet (some v) <;> simp [hv]

section
variable {cc : VarConn}

theorem aprTableGet_setVar :
    aprTableGet (setVar lookups c name t) k =
      if aprKeyEq name k ∧ cStrSet (tlsVarLookup lookups c name) then tlsVarLookup lookups c name
      else aprTableGet t k := by
  unfold setVar tlsVarLookup
  cases aprHashGet lookups name with
  | none => simp [cStrSet]
  | some d =>
    dsimp only
    cases invoke d c with
    | none => simp [cStrSet]
    | some v => by_cases hv : v = "" <;> simp [hv, cStrSet, aprTableGet_setn]

theorem varLookups_eq : varLookups =
    [("SSL_CLIENT_S_DN_CN", ⟨"SSL_CLIENT_S_DN_CN", varGetClientSDnCn⟩),
      ("SSL_TLS_SNI", ⟨"SSL_TLS_SNI", varGetSniHostname⟩), ("SSL_CIPHER", ⟨"SSL_CIPHER", varGetSslCipher⟩),
      ("SSL_PROTOCOL", ⟨"SSL_PROTOCOL", varGetSslProtocol⟩)] := rfl

theorem varLookups_some (h : aprHashGet varLookups name = some d) :
    d.name = name ∧ (∀ (cc : VarConn) e, d.fn { cc with subprocessEnv := e } = d.fn cc) ∧
      name ∈ tlsAlwaysVars := by
  rw [varLookups_eq] at h
  simp only [aprHashGet, List.find?_cons] at h
  repeat' split at h
  all_goals simp only [List.find?_nil, Option.map_none', Option.map_some', Option.some.injEq,
    reduceCtorEq] at h
  all_goals
    subst h
    rename_i hn
    obtain rfl := beq_iff_eq.mp hn
    exact ⟨rfl, fun _ _ => rfl, by simp [tlsAlwaysVars]⟩

theorem setVar_distinct (h : AprKeysDistinct t) : AprKeysDistinct (setVar lookups c name t) := by
  unfold setVar
  repeat' split
  all_goals first | exact h | exact aprTableSetn_distinct h

theorem handshakeEnv_distinct :
    AprKeysDistinct (tlsAlwaysVars.foldl (fun env name => setVar lookups c name env)
      (aprTableSetn [] "HTTPS" "on")) := by
  simp only [tlsAlwaysVars, List.foldl]
  exact setVar_distinct (setVar_distinct (setVar_distinct (setVar_distinct
    (aprTableSetn_distinct List.Pairwise.nil))))

theorem handshakeEnv_get (hn : n ∈ tlsAlwaysVars) (hk : aprKeyEq n k = true) :
    aprTableGet (tlsAlwaysVars.foldl (fun env name => setVar lookups c name env)
        (aprTableSetn [] "HTTPS" "on")) k =
      if cStrSet (tlsVarLookup lookups c n) then tlsVarLookup lookups c n else none := by
  simp only [tlsAlwaysVars, List.foldl, aprTableGet_setVar, aprTableGet_setn, ← aprKeyEq_congr hk]
  simp only [tlsAlwaysVars, List.mem_cons, List.mem_singleton, List.not_mem_nil, or_false] at hn
  rcases hn with rfl | rfl | rfl | rfl <;> simp [aprKeyEq, aprTableGet]

theorem handshakeEnv_https (hk : aprKeyEq "HTTPS" k = true) :
    aprTableGet (tlsAlwaysVars.foldl (fun env name => setVar lookups c name env)
        (aprTableSetn [] "HTTPS" "on")) k = some "on" := by
  simp only [tlsAlwaysVars, List.foldl, aprTableGet_setVar, aprTableGet_setn, ← aprKeyEq_congr hk]
  simp [aprKeyEq]

theorem handshakeEnv_other (hk : ∀ n ∈ "HTTPS" :: tlsAlwaysVars, aprKeyEq n k = false) :
    aprTableGet (tlsAlwaysVars.foldl (fun env name => setVar lookups c name env)
        (aprTableSetn [] "HTTPS" "on")) k = none := by
  simp only [tlsAlwaysVars, List.forall_mem_cons, List.not_mem_nil, false_implies, implies_true,
    and_true] at hk
  simp only [tlsAlwaysVars, List.foldl, aprTableGet_setVar, aprTableGet_setn, hk]
  simp [aprTableGet]

theorem invoke_cached (hfn : ∀ e, d.fn { cc with subprocessEnv := e } = d.fn cc)
    (he : aprTableGet env d.name =
      if cStrSet (invoke d (some cc)) then invoke d (some cc) else none) :
    invoke d (some { cc with subprocessEnv := some env }) = invoke d (some cc) := by
  simp only [invoke, Option.some_bind, hfn] at he ⊢
  split_ifs at he ⊢ <;> simp_all [cStrSet]

theorem invoke_handshakeDone (h : aprHashGet varLookups name = some d) :
    invoke d (some (tlsVarHandshakeDone varLookups cc).2) = invoke d (some cc) := by
  obtain ⟨rfl, hfn, hn⟩ := varLookups_some h
  unfold tlsVarHandshakeDone
  split_ifs with hs
  · simp [invoke, hs]
  · refine invoke_cached (hfn cc) ?_
    rw [handshakeEnv_get hn (aprKeyEq_refl _), tlsVarLookup, h]

/-- Filling the cache changes no answer of `tls_var_lookup`. -/
theorem tlsVarHandshakeDone_lookup (cc : VarConn) (name : String) :
    tlsVarLookup varLookups (some (tlsVarHandshakeDone varLookups cc).2) name =
      tlsVarLookup varLookups (some cc) name := by
  unfold tlsVarLookup
  cases h : aprHashGet varLookups name with
  | none => rfl
  | some d => exact invoke_handshakeDone h

theorem tlsVarRequestFixup_handshakeDone (hs : cc.state ≠ .ignored) :
    (tlsVarRequestFixup varLookups (some (tlsVarHandshakeDone varLookups cc).2) flag env).2 =
      aprTableOverlap env (tlsAlwaysVars.foldl (fun env name => setVar varLookups (some cc) name env)
        (aprTableSetn [] "HTTPS" "on")) := by
  simp only [tlsVarHandshakeDone, tlsVarRequestFixup, hs, if_false, stdEnvVars, List.foldl_nil, ite_self]

/-- The request's `subprocess_env` after `tls_var_handshake_done` and `tls_var_request_fixup`. -/
theorem tlsVarRequestFixup_env (hs : cc.state ≠ .ignored) (flag : TlsFlag) (env : List (String × String)) :
    let env' := (tlsVarRequestFixup varLookups (some (tlsVarHandshakeDone varLookups cc).2) flag env).2
    AprKeysDistinct env' ∧
    (∀ k, aprKeyEq "HTTPS" k = true → aprTableGet env' k = some "on") ∧
    (∀ n ∈ tlsAlwaysVars, ∀ k, aprKeyEq n k = true →
      aprTableGet env' k = if cStrSet (tlsVarLookup varLookups (some cc) n) then
        tlsVarLookup varLookups (some cc) n else aprTableGet env.reverse k) ∧
    (∀ k, (∀ n ∈ "HTTPS" :: tlsAlwaysVars, aprKeyEq n k = false) →
      aprTableGet env' k = aprTableGet env.reverse k) := by
  simp only [tlsVarRequestFixup_handshakeDone hs, aprTableGet_overlap,
    aprTableGet_reverse handshakeEnv_distinct]
  refine ⟨aprTableCompress_distinct, fun k hk => ?_, fun n hn k hk => ?_, fun k hk => ?_⟩
  · rw [handshakeEnv_https hk]; rfl
  · rw [handshakeEnv_get hn hk, cStrSet_or]
  · rw [handshakeEnv_other hk]; rfl

/-- A connection after a TLS 1.3 handshake, without SNI or client certificate. -/
def trafficVarConn : VarConn :=
  { state := .traffic, tlsProtocolName := some "TLSv1_3", tlsCipherName := some "TLS13_AES_128_GCM_SHA256",
    sniHostname := none, clientCert := false, subprocessEnv := none }

theorem tlsVarRequestFixup_env_traffic :
    trafficVarConn.state ≠ .ignored ∧
      aprTableGet (tlsVarRequestFixup varLookups (some (tlsVarHandshakeDone varLookups trafficVarConn).2)
        .true [("Accept", "a"), ("ACCEPT", "b")]).2 "accept" = some "b" :=
  ⟨by decide,
    ((tlsVarRequestFixup_env (show trafficVarConn.state ≠ .ignored by decide) .true
      [("Accept", "a"), ("ACCEPT", "b")]).2.2.2 "accept" (by decide)).trans rfl⟩

end

end ModTls
