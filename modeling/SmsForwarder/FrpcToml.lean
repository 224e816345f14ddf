/-
**The rendered frpc configuration as a TOML document.**

`_frpc_toml` puts the fields of a tunnel row between quotation marks as they are.  The proxy name
is harmless, and so are the host and the token if the settings are; what is left is `local_ip`.
Its validator lets a scoped IPv6 address through, and `ip_address` accepts any scope text.

Main definitions:

* `SmsForwarder.frpcLines` — the lines of the configuration;
* `SmsForwarder.frpcDocument` — the document it is meant to be.

Main results:

* `SmsForwarder.toList_frpcToml` — the rendered text is that of the lines;
* `SmsForwarder.parse_frpcToml_iff`, `SmsForwarder.renderFrpcConfig_parse_iff` — **the rendered text
  is a document with exactly the fields of the row if and only if `local_ip` holds no quotation
  mark, backslash or control character**;
* `SmsForwarder.scope_breaks_config` — a configuration that is not.
-/

import SmsForwarder.TomlText
import SmsForwarder.TunnelRuns

set_option relaxedAutoImplicit false
set_option autoImplicit false

namespace SmsForwarder

open Tables Runs TunnelService

variable {β : Type} (env : Env)

/-! ### The lines -/

/-- The lines in front of that of `local_ip`. -/
def frpcLinesBefore (t : DeviceTunnel) (token : String) : List (Toml.Line β) :=
  [.assign ["serverAddr".toList] (.str env.settings.frpsPublicHost.toList),
    .assign ["serverPort".toList] (.int FRPS_BIND_PORT),
    .blank,
    .assign ["auth".toList, "method".toList] (.str "token".toList),
    .assign ["auth".toList, "token".toList] (.str token.toList),
    .blank,
    .element ["proxies".toList],
    .assign ["name".toList] (.str t.proxyName.toList),
    .assign ["type".toList] (.str "tcp".toList)]

/-- The lines behind that of `local_ip`. -/
def frpcLinesAfter (t : DeviceTunnel) : List (Toml.Line β) :=
  [.assign ["localPort".toList] (.int t.localPort),
    .assign ["remotePort".toList] (.int t.remotePort),
    .assign ["transport".toList, "useEncryption".toList] (.bool t.useEncryption),
    .assign ["transport".toList, "useCompression".toList] (.bool t.useCompression)]

/-- The lines of the configuration. -/
def frpcLines (t : DeviceTunnel) (token : String) : List (Toml.Line β) :=
  frpcLinesBefore env t token ++
    .assign ["localIP".toList] (.str t.localIp.toList) :: frpcLinesAfter t

set_option maxRecDepth 2000 in
/-- The rendered text is that of the lines. -/
theorem toList_frpcToml (t : DeviceTunnel) (token : String) :
    (frpcToml env t token).toList = Toml.linesText (frpcLines env t token : List (Toml.Line β)) := by
  unfold frpcToml frpcLines frpcLinesBefore frpcLinesAfter
  rw [String.toList_intercalate]
  simp only [List.map_cons, List.map_nil, List.intercalate, List.intersperse, List.flatten_cons,
    List.flatten_nil, Toml.linesText, List.flatMap_cons, List.flatMap_nil, List.cons_append,
    List.nil_append]
  simp [Toml.Line.text, Toml.dotted, Toml.Value.text, List.intercalate]
  cases t.useEncryption <;> cases t.useCompression <;> rfl

/-! ### The document -/

/-- The path of a field of the one proxy. -/
def proxyPath (ks : List String) : Toml.Path :=
  .name "proxies".toList :: .elem 0 :: ks.map fun k => .name k.toList

/-- What is defined in front of `localIP`. -/
def frpcDocumentBefore (t : DeviceTunnel) : Toml.Doc β :=
  [([.name "serverAddr".toList], .value (.str env.settings.frpsPublicHost.toList)),
    ([.name "serverPort".toList], .value (.int FRPS_BIND_PORT)),
    ([.name "auth".toList], .table .dotted),
    ([.name "auth".toList, .name "method".toList], .value (.str "token".toList)),
    ([.name "auth".toList, .name "token".toList],
      .value (.str env.settings.frpsAuthToken.toList)),
    ([.name "proxies".toList], .element),
    (proxyPath [], .table .header),
    (proxyPath ["name"], .value (.str t.proxyName.toList)),
    (proxyPath ["type"], .value (.str t.proxyType.toList))]

/-- The document the configuration is meant to be: the server, the credentials, and one proxy with
the fields of the row. -/
def frpcDocument (t : DeviceTunnel) : Toml.Doc β :=
  frpcDocumentBefore env t ++
    [(proxyPath ["localIP"], .value (.str t.localIp.toList)),
      (proxyPath ["localPort"], .value (.int t.localPort)),
      (proxyPath ["remotePort"], .value (.int t.remotePort)),
      (proxyPath ["transport"], .table .dotted),
      (proxyPath ["transport", "useEncryption"], .value (.bool t.useEncryption)),
      (proxyPath ["transport", "useCompression"], .value (.bool t.useCompression))]

theorem runLines_frpcLinesBefore {t : DeviceTunnel} (htype : t.proxyType = "tcp") :
    Toml.runLines (frpcLinesBefore env t env.settings.frpsAuthToken) ([], []) =
      some ((frpcDocumentBefore env t : Toml.Doc β), proxyPath []) := by
  unfold frpcDocumentBefore
  rw [htype]
  rfl

/-- The lines define the document. -/
theorem runLines_frpcLines {t : DeviceTunnel} (htype : t.proxyType = "tcp") :
    Toml.runLines (frpcLines env t env.settings.frpsAuthToken) ([], []) =
      some ((frpcDocument env t : Toml.Doc β), proxyPath []) := by
  rw [frpcLines, Toml.runLines_append, runLines_frpcLinesBefore env htype]
  rfl

/-! ### What the reader makes of the text -/

theorem plain_of_isLowerHex {c : Char} (h : isLowerHex c = true) : Toml.plain c = true := by
  have hrange : (48 ≤ c.toNat ∧ c.toNat ≤ 57) ∨ (97 ≤ c.toNat ∧ c.toNat ≤ 102) := by
    simpa [isLowerHex, Char.isDigit, Char.le_def, UInt32.le_iff_toNat_le] using h
  have hne : ∀ d : Char, d.toNat = 34 ∨ d.toNat = 92 → c ≠ d := by
    intro d hd heq
    subst heq
    omega
  have hcontrol : Toml.isControl c = false := by
    simp only [Toml.isControl, Bool.and_eq_false_iff, Bool.or_eq_false_iff, decide_eq_false_iff_not]
    omega
  simp [Toml.plain, hcontrol, hne '"' (Or.inl rfl), hne '\\' (Or.inr rfl)]

/-- A device identifier is plain, so the proxy name is. -/
theorem plain_proxyName (uuid : Uuid) :
    (proxyName (generateDeviceId uuid)).toList.all Toml.plain = true := by
  have hid : (generateDeviceId uuid).toList.all Toml.plain = true := by
    unfold generateDeviceId
    rw [String.toList_append, List.all_append, Bool.and_eq_true]
    refine ⟨by decide, List.all_eq_true.2 fun c hc => ?_⟩
    rw [String.toList_ofList] at hc
    exact plain_of_isLowerHex (uuid.lowerHex c (List.mem_of_mem_take hc))
  unfold proxyName
  rw [String.toList_ofList, String.toList_append, List.all_eq_true]
  intro c hc
  rcases List.mem_append.1 (List.mem_of_mem_take hc) with hc | hc
  · exact List.all_eq_true.1 (show "smsf-".toList.all Toml.plain = true by decide) c hc
  · exact List.all_eq_true.1 hid c hc

section

variable {env} {t : DeviceTunnel} {other : List Char → Option (Toml.Value β × List Char)}

/-- The lines in front of that of `local_ip` are printable. -/
theorem printable_frpcLinesBefore {token : String}
    (hhost : env.settings.frpsPublicHost.toList.all Toml.plain = true)
    (htoken : token.toList.all Toml.plain = true)
    (hname : t.proxyName.toList.all Toml.plain = true) :
    ∀ l ∈ (frpcLinesBefore env t token : List (Toml.Line β)), l.Printable := by
  have htokenText : "token".toList.all Toml.plain = true := by decide
  have htcp : "tcp".toList.all Toml.plain = true := by decide
  intro l hl
  simp only [frpcLinesBefore, List.mem_cons, List.not_mem_nil, or_false] at hl
  rcases hl with rfl | rfl | rfl | rfl | rfl | rfl | rfl | rfl | rfl
  · exact ⟨by decide, hhost⟩
  · exact ⟨by decide, trivial⟩
  · trivial
  · exact ⟨by decide, htokenText⟩
  · exact ⟨by decide, htoken⟩
  · trivial
  · exact (by decide : Toml.BareKey ["proxies".toList])
  · exact ⟨by decide, hname⟩
  · exact ⟨by decide, htcp⟩

/-- The lines behind that of `local_ip` are printable. -/
theorem printable_frpcLinesAfter : ∀ l ∈ (frpcLinesAfter t : List (Toml.Line β)), l.Printable := by
  intro l hl
  simp only [frpcLinesAfter, List.mem_cons, List.not_mem_nil, or_false] at hl
  rcases hl with rfl | rfl | rfl | rfl <;> exact ⟨by decide, trivial⟩

/-- **The rendered text of a sound row** is the document of the row exactly when `local_ip` is
plain. -/
theorem parse_frpcToml_iff (h : RowSound env t)
    (hhost : env.settings.frpsPublicHost.toList.all Toml.plain = true)
    (htoken : env.settings.frpsAuthToken.toList.all Toml.plain = true)
    (hname : t.proxyName.toList.all Toml.plain = true) :
    Toml.parse other (frpcToml env t env.settings.frpsAuthToken).toList =
        some (frpcDocument env t) ↔
      t.localIp.toList.all Toml.plain = true := by
  rw [toList_frpcToml]
  have hbefore : ∀ l ∈ (frpcLinesBefore env t env.settings.frpsAuthToken : List (Toml.Line β)),
      l.Printable := printable_frpcLinesBefore hhost htoken hname
  constructor
  · intro hparse
    obtain ⟨ip, hip⟩ := h.localIp
    obtain ⟨c, hc, haddr⟩ := ip.head_text
    have hhead : t.localIp.toList.head? ≠ some '"' := by
      rw [hip, hc]
      intro heq
      obtain rfl := Option.some.inj heq
      exact absurd haddr (by decide)
    have htext : Toml.linesText (frpcLines env t env.settings.frpsAuthToken : List (Toml.Line β)) =
        Toml.linesText (frpcLinesBefore env t env.settings.frpsAuthToken : List (Toml.Line β)) ++
          (Toml.dotted ["localIP".toList] ++ " = ".toList ++ '"' :: (t.localIp.toList ++ '"' ::
            '\n' :: Toml.linesText (frpcLinesAfter t : List (Toml.Line β)))) := by
      simp [Toml.linesText, frpcLines, Toml.Line.text, Toml.Value.text]
    rw [htext] at hparse
    obtain ⟨v, more, doc', hread, hassign, hprefix⟩ :=
      Toml.exists_of_parse_str hbefore (runLines_frpcLinesBefore env h.proxyType) (by decide)
        hhead hparse
    -- the string that was read is the tenth definition, so it is the text of the row
    have hv : v = t.localIp.toList := by
      have hread₉ : doc'[9]? = some (proxyPath ["localIP"], .value (.str v)) := by
        rw [← Option.some.inj hassign]
        rfl
      have hmeant : (frpcDocument env t : Toml.Doc β)[9]? =
          some (proxyPath ["localIP"], .value (.str t.localIp.toList)) := rfl
      obtain ⟨hlt, -⟩ := List.getElem?_eq_some_iff.1 hread₉
      obtain ⟨tail, htail⟩ := hprefix
      rw [← htail, List.getElem?_append_left hlt, hread₉] at hmeant
      simpa using hmeant
    rw [hv] at hread
    exact Toml.plain_of_basicString hread
  · intro hip
    rw [Toml.parse_linesText ?_, runLines_frpcLines env h.proxyType]
    · rfl
    · intro l hl
      rcases List.mem_append.1 hl with hl | hl
      · exact hbefore l hl
      · rcases List.mem_cons.1 hl with rfl | hl
        · exact ⟨by decide, hip⟩
        · exact printable_frpcLinesAfter l hl

end

/-- What is known of a tunnel row in a state of a run: it is sound, its proxy name is plain, and a
configuration with the configured token is rendered from it. -/
theorem renderFrpcConfig_final {ops : List TunnelOp} {t : DeviceTunnel}
    (ht : t ∈ (final (TunnelOp.exec env) Store.empty ops).deviceTunnels) :
    RowSound env t ∧ t.proxyName.toList.all Toml.plain = true ∧ ∀ userId now, ∃ db',
      renderFrpcConfig env (final (TunnelOp.exec env) Store.empty ops) t.deviceId userId now =
        .ok (db', t.proxyName ++ "-frpc.toml", frpcToml env t env.settings.frpsAuthToken) := by
  obtain ⟨hadm, h⟩ := tunnelsSound_final env ops
  obtain ⟨device, hd, hid⟩ := h.owned t ht
  obtain ⟨uuid, huuid⟩ := h.named device hd
  have hrow := h.rows t ht
  refine ⟨hrow, ?_, renderFrpcConfig_of_mem hadm h.oneRow hd ht hid hrow.token⟩
  rw [hrow.proxyName, ← hid, huuid]
  exact plain_proxyName uuid

/-- **The rendered configuration of a tunnel**: in every state of every run, for every device with
a tunnel row, a configuration is rendered, and it reads as the document of the row exactly when
`local_ip` holds no quotation mark, no backslash and no control character other than tab. -/
theorem renderFrpcConfig_parse_iff (other : List Char → Option (Toml.Value β × List Char))
    (hhost : env.settings.frpsPublicHost.toList.all Toml.plain = true)
    (htoken : env.settings.frpsAuthToken.toList.all Toml.plain = true) (ops : List TunnelOp)
    (t : DeviceTunnel)
    (ht : t ∈ (final (TunnelOp.exec env) Store.empty ops).deviceTunnels) (userId : Option ℤ)
    (now : Timestamp) :
    ∃ db' filename content,
      renderFrpcConfig env (final (TunnelOp.exec env) Store.empty ops) t.deviceId userId now =
          .ok (db', filename, content) ∧
        (Toml.parse other content.toList = some (frpcDocument env t) ↔
          t.localIp.toList.all Toml.plain = true) := by
  obtain ⟨hrow, hname, hrender⟩ := renderFrpcConfig_final env ht
  obtain ⟨db', hok⟩ := hrender userId now
  exact ⟨db', _, _, hok, parse_frpcToml_iff hrow hhost htoken hname⟩

/-- A device and a tunnel to the given address on it. -/
def tunnelTo (ip : LocalIp) : List TunnelOp :=
  [.create Uuid.nil 0 {},
    .enable (generateDeviceId Uuid.nil) 0
      { localIp := ip, localPort := .app, remotePort := some .first }]

/-- A reader that knows no value besides those of `Toml.value`. -/
def noOther (_ : List Char) : Option (Toml.Value Empty × List Char) := none

/-- At the default address the configuration reads as the document of the row. -/
theorem default_config_parse :
    ∃ t ∈ (final (TunnelOp.exec (plainEnv ormSchema)) Store.empty
        (tunnelTo .default)).deviceTunnels, ∃ db' filename content,
      renderFrpcConfig (plainEnv ormSchema)
          (final (TunnelOp.exec (plainEnv ormSchema)) Store.empty (tunnelTo .default))
          t.deviceId none 0 = .ok (db', filename, content) ∧
        Toml.parse noOther content.toList = some (frpcDocument (plainEnv ormSchema) t) := by
  obtain ⟨t, ht, hplain⟩ : ∃ t ∈ (final (TunnelOp.exec (plainEnv ormSchema)) Store.empty
      (tunnelTo .default)).deviceTunnels, t.localIp.toList.all Toml.plain = true :=
    ⟨_, List.mem_cons_self, by decide⟩
  obtain ⟨db', filename, content, hok, hiff⟩ := renderFrpcConfig_parse_iff (plainEnv ormSchema)
    noOther (by decide) (by decide) (tunnelTo .default) t ht none 0
  exact ⟨t, ht, db', filename, content, hok, hiff.2 hplain⟩

/-- A loopback address whose scope is a quotation mark. -/
def scopedIp : LocalIp := ⟨"::1%\"", "::1%\"", by decide, by decide⟩

/-- **A scope breaks the configuration**: it does not read as the document of the row. -/
theorem scope_breaks_config :
    ∃ t ∈ (final (TunnelOp.exec (plainEnv ormSchema)) Store.empty
        (tunnelTo scopedIp)).deviceTunnels, ∃ db' filename content,
      renderFrpcConfig (plainEnv ormSchema)
          (final (TunnelOp.exec (plainEnv ormSchema)) Store.empty (tunnelTo scopedIp))
          t.deviceId none 0 = .ok (db', filename, content) ∧
        Toml.parse noOther content.toList ≠ some (frpcDocument (plainEnv ormSchema) t) := by
  have hmem : ∃ t, t ∈ (final (TunnelOp.exec (plainEnv ormSchema)) Store.empty
      (tunnelTo scopedIp)).deviceTunnels ∧ t.localIp = "::1%\"" :=
    ⟨_, List.mem_cons_self, rfl⟩
  obtain ⟨t, ht, hip⟩ := hmem
  obtain ⟨hrow, hname, hrender⟩ := renderFrpcConfig_final (plainEnv ormSchema) ht
  obtain ⟨db', hok⟩ := hrender none 0
  refine ⟨t, ht, db', _, _, hok, ?_⟩
  rw [ne_eq, parse_frpcToml_iff hrow (by decide) (by decide) hname, hip]
  decide

end SmsForwarder
