import Sofa.ClientKeys
import Sofa.Node

/-! # The files that a server and a client load

    Three loaders read their file a line at a time into a buffer of 256 bytes: the server's key
    file, the server's constant entries, and the client's key file.  The two key-file loaders
    differ in their ranges, in what a second row for a slot does, and in what a faulty row does.

    * `serverLoadKeyFile_eq`, `constOdLoadFile_eq`: the rows, parsed, are what the node boots from;
    * **`loaders_agree`**: what the server loads, the client loads too;
    * **`file_rows_iff`**: when the rows of a file are those of its lines. -/

namespace SofaKeyFiles

open ByteBlock SofaConfig SofaOd SofaDevice SofaNode SofaHexText SofaClientKeys CText FixedBuffer

/-- The characters that `fgets` reads into `char line[256]`. -/
abbrev lineRoom : Nat := 255

/-! ## The server's key file -/

/-- The id of a row: the optional column, and the key id without it. -/
def rowId (ulongMax kid : Nat) : List CString → Option Nat
  | [] => some kid
  | tId :: _ => wholeNumber ulongMax tId 0

/-- A row of the server's key file; `none` is a row that ends the load.  The local key buffer is
    filled by a parse of 16 bytes. -/
def serverRow (ulongMax : Nat) : List CString → Option KeyRow
  | tKid :: fields =>
      match wholeNumber ulongMax tKid 0 with
      | none => none
      | some kid =>
          if kid < 1 ∨ kid > 255 then none
          else
            match fields with
            | _tLabel :: tKey :: more =>
                let out := serverParseHexStrict tKey (zero 16)
                if out.1 != 16 then none
                else (rowId ulongMax kid more).map fun idv =>
                  ⟨UInt8.ofNat kid, out.2, UInt32.ofNat idv⟩
            | _ => none
  | [] => none

/-- The body of the loop, over the store and the rows loaded so far. -/
def serverBody (ulongMax : Nat) (st : KeyStore × Nat) (row : List CString) :
    Option (KeyStore × Nat) := do
  let r ← serverRow ulongMax row
  let keys ← st.1.setKeyEx r.keyId r.key r.idVal
  return (keys, st.2 + 1)

/-- `fbsec_server_load_key_file` for the contents of the file; `none` is the return of -1. -/
def serverLoadKeyFile (ulongMax : Nat) (text : Text) (keys : KeyStore) : Option KeyStore := do
  let st ← readLoop (serverBody ulongMax) lineRoom text.length text (keys, 0)
  if st.2 = 0 then none else some st.1

/-! ## The constant entries -/

/-- The next token as a hex number up to `max`, and the tokens after it. -/
def hexField (ulongMax max : Nat) : List CString → Option (Nat × List CString)
  | [] => none
  | tok :: row =>
      match wholeNumber ulongMax tok 16 with
      | none => none
      | some v => if v > max then none else some (v, row)

/-- The data bytes of a row. -/
def dataFields (ulongMax : Nat) : Nat → List CString → Option (List UInt8 × List CString)
  | 0, row => some ([], row)
  | n + 1, row => do
      let (v, row) ← hexField ulongMax 0xFF row
      let (data, row) ← dataFields ulongMax n row
      return (UInt8.ofNat v :: data, row)

/-- A row of the od-file: index, sub-index, length, and so many data bytes. -/
def constOdRow (ulongMax : Nat) (row : List CString) : Option ConstEntry := do
  let (index, row) ← hexField ulongMax 0xFFFF row
  let (sub, row) ← hexField ulongMax 0xFF row
  let (len, row) ← hexField ulongMax constOdMaxData row
  let (data, row) ← dataFields ulongMax len row
  if row = [] then some ⟨UInt16.ofNat index, UInt8.ofNat sub, data⟩ else none

/-- The body of the loop, over the table. -/
def constOdBody (ulongMax : Nat) (table : List ConstEntry) (row : List CString) :
    Option (List ConstEntry) := do
  let e ← constOdRow ulongMax row
  if table.length ≥ constOdMaxEntries then none else some (table ++ [e])

/-- `fbsec_const_od_load_file`, after `fbsec_const_od_init`. -/
def constOdLoadFile (ulongMax : Nat) (text : Text) : Option (List ConstEntry) :=
  readLoop (constOdBody ulongMax) lineRoom text.length text []

/-! ## The client's key file -/

/-- The variables of the loop: the store, the rows loaded, and whether a row was refused. -/
structure Loading where
  keys : ClientKeys
  loadedCount : Nat := 0
  anyError : Bool := false

/-- The body of the loop; a refused row does not end the load. -/
def clientBody (ulongMax : Nat) (st : Loading) (row : List CString) : Loading :=
  let out := st.keys.loadRow ulongMax row
  if out.1 then ⟨out.2, st.loadedCount + 1, st.anyError⟩ else ⟨out.2, st.loadedCount, true⟩

/-- The loop of `fbsec_client_keys_load_file`. -/
def clientLoop (ulongMax : Nat) (text : Text) (keys : ClientKeys) : Option Loading :=
  readLoop (fun st row => some (clientBody ulongMax st row)) lineRoom text.length text { keys }

/-- `fbsec_client_keys_load_file`: the return code and the store after it. -/
def clientLoadFile (ulongMax : Nat) (text : Text) (keys : ClientKeys) : Nat × ClientKeys :=
  match clientLoop ulongMax text keys with
  | none => (1, keys)
  | some st =>
      if st.loadedCount = 0 then (1, st.keys)
      else if st.anyError then (1, st.keys)
      else (0, st.keys)

/-! ## The rows that are loaded -/

section Rows

variable {ulongMax : Nat} {text : Text}

theorem reads_room (text : Text) : rowsOf (readsUpTo lineRoom text.length text)
    = fileRows lineRoom text := rfl

/-- The client's loop goes over all the rows. -/
theorem clientLoop_eq (ulongMax : Nat) (text : Text) (keys : ClientKeys) :
    clientLoop ulongMax text keys
      = some ((fileRows lineRoom text).foldl (clientBody ulongMax) { keys }) := by
  have hfold : ∀ (rows : List (List CString)) (st : Loading),
      rows.foldlM (fun st row => some (clientBody ulongMax st row)) st
        = some (rows.foldl (clientBody ulongMax) st) := by
    intro rows
    induction rows with
    | nil => exact fun st => rfl
    | cons row rows ih =>
        intro st
        rw [List.foldlM_cons, List.foldl_cons, ← ih]
        rfl
  rw [clientLoop, readLoop_eq, reads_room, hfold]

/-- One row of the node's key file installed. -/
def installRow (keys : KeyStore) (row : KeyRow) : Option KeyStore :=
  keys.setKeyEx row.keyId row.key row.idVal

/-- The server's loop parses and installs row by row, and counts. -/
theorem serverBody_fold (rows : List (List CString)) (st : KeyStore × Nat) :
    rows.foldlM (serverBody ulongMax) st
      = (rows.mapM (serverRow ulongMax)).bind fun parsed =>
        (parsed.foldlM installRow st.1).map fun keys => (keys, st.2 + parsed.length) := by
  induction rows generalizing st with
  | nil => rfl
  | cons row rows ih =>
      rw [List.foldlM_cons, List.mapM_cons, serverBody]
      cases hrow : serverRow ulongMax row with
      | none => rfl
      | some r =>
          simp only [Option.bind_eq_bind, Option.bind_some, Option.pure_def]
          cases hset : installRow st.1 r with
          | none =>
              have hset' : st.1.setKeyEx r.keyId r.key r.idVal = none := hset
              rw [hset', Option.bind_none, Option.bind_none]
              cases hmap : rows.mapM (serverRow ulongMax) with
              | none => rfl
              | some parsed =>
                  rw [Option.bind_some, Option.bind_some, List.foldlM_cons, hset]
                  rfl
          | some keys =>
              have hset' : st.1.setKeyEx r.keyId r.key r.idVal = some keys := hset
              rw [hset', Option.bind_some, Option.bind_some, ih]
              cases hmap : rows.mapM (serverRow ulongMax) with
              | none => rfl
              | some parsed =>
                  rw [Option.bind_some, Option.bind_some, Option.bind_some, List.foldlM_cons, hset,
                    List.length_cons, Nat.add_assoc, Nat.add_comm 1]
                  rfl

/-- **The server's key file**, once its rows are parsed. -/
theorem serverLoadKeyFile_eq (ulongMax : Nat) (text : Text) (keys : KeyStore) :
    serverLoadKeyFile ulongMax text keys
      = ((fileRows lineRoom text).mapM (serverRow ulongMax)).bind (loadKeyFile keys) := by
  rw [serverLoadKeyFile, readLoop_eq, reads_room, serverBody_fold]
  cases hmap : (fileRows lineRoom text).mapM (serverRow ulongMax) with
  | none => rfl
  | some parsed =>
      rw [Option.bind_some, Option.bind_some, loadKeyFile]
      cases parsed with
      | nil => rfl
      | cons r rest =>
          have hrows : (r :: rest).foldlM (fun keys row => keys.setKeyEx row.keyId row.key row.idVal)
              keys = (r :: rest).foldlM installRow keys := rfl
          rw [hrows]
          cases hfold : (r :: rest).foldlM installRow keys with
          | none => rfl
          | some keys' => rfl

/-- A data row that is parsed is no longer than an entry. -/
theorem length_dataFields {n : Nat} {row rest : List CString} {data : List UInt8}
    (h : dataFields ulongMax n row = some (data, rest)) : data.length = n := by
  induction n generalizing row data with
  | zero =>
      cases h
      rfl
  | succ n ih =>
      obtain ⟨⟨v, row'⟩, -, h⟩ := Option.bind_eq_some_iff.mp h
      obtain ⟨⟨more, row''⟩, hmore, h⟩ := Option.bind_eq_some_iff.mp h
      cases h
      exact congrArg (· + 1) (ih hmore)

theorem hexField_le {max v : Nat} {row rest : List CString}
    (h : hexField ulongMax max row = some (v, rest)) : v ≤ max := by
  cases row with
  | nil => cases h
  | cons tok row =>
      rw [hexField] at h
      cases hnum : wholeNumber ulongMax tok 16 with
      | none =>
          rw [hnum] at h
          cases h
      | some w =>
          rw [hnum] at h
          dsimp only at h
          by_cases hbig : w > max
          · rw [if_pos hbig] at h
            cases h
          · rw [if_neg hbig] at h
            cases h
            exact Nat.le_of_not_lt hbig

theorem constOdRow_fits {row : List CString} {e : ConstEntry}
    (h : constOdRow ulongMax row = some e) : e.data.length ≤ constOdMaxData := by
  obtain ⟨⟨index, row₁⟩, -, h⟩ := Option.bind_eq_some_iff.mp h
  obtain ⟨⟨sub, row₂⟩, -, h⟩ := Option.bind_eq_some_iff.mp h
  obtain ⟨⟨len, row₃⟩, hlen, h⟩ := Option.bind_eq_some_iff.mp h
  obtain ⟨⟨data, row₄⟩, hdata, h⟩ := Option.bind_eq_some_iff.mp h
  dsimp only at h
  by_cases hend : row₄ = []
  · rw [if_pos hend] at h
    cases h
    show data.length ≤ constOdMaxData
    rw [length_dataFields hdata]
    exact hexField_le hlen
  · rw [if_neg hend] at h
    cases h

theorem constOdRows_fit {rows : List (List CString)} {entries : List ConstEntry}
    (h : rows.mapM (constOdRow ulongMax) = some entries) :
    ∀ e ∈ entries, e.data.length ≤ constOdMaxData := by
  induction rows generalizing entries with
  | nil =>
      cases h
      simp
  | cons row rows ih =>
      rw [List.mapM_cons] at h
      obtain ⟨e, hrow, h⟩ := Option.bind_eq_some_iff.mp h
      obtain ⟨rest, hrest, h⟩ := Option.bind_eq_some_iff.mp h
      cases h
      exact List.forall_mem_cons.mpr ⟨constOdRow_fits hrow, ih hrest⟩

/-- **The constant entries**, once their rows are parsed. -/
theorem constOdLoadFile_eq (ulongMax : Nat) (text : Text) :
    constOdLoadFile ulongMax text
      = ((fileRows lineRoom text).mapM (constOdRow ulongMax)).bind loadOdFile := by
  have hfold : ∀ (rows : List (List CString)) (table : List ConstEntry),
      table.length ≤ constOdMaxEntries →
      rows.foldlM (constOdBody ulongMax) table
        = (rows.mapM (constOdRow ulongMax)).bind fun entries =>
          if table.length + entries.length > constOdMaxEntries then none
          else some (table ++ entries) := by
    intro rows
    induction rows with
    | nil =>
        intro table hroom
        rw [List.foldlM_nil, List.mapM_nil, Option.pure_def, Option.bind_some, List.length_nil,
          List.append_nil, if_neg (by omega)]
    | cons row rows ih =>
        intro table hroom
        rw [List.foldlM_cons, List.mapM_cons, constOdBody]
        cases hrow : constOdRow ulongMax row with
        | none => rfl
        | some e =>
            simp only [Option.bind_eq_bind, Option.bind_some, Option.pure_def]
            by_cases hfull : table.length ≥ constOdMaxEntries
            · rw [if_pos hfull, Option.bind_none]
              cases hmap : rows.mapM (constOdRow ulongMax) with
              | none => rfl
              | some entries =>
                  rw [Option.bind_some, Option.bind_some, List.length_cons, if_pos (by omega)]
            · rw [if_neg hfull, Option.bind_some,
                ih _ (by rw [List.length_append, List.length_singleton]; omega)]
              cases hmap : rows.mapM (constOdRow ulongMax) with
              | none => rfl
              | some entries =>
                  have hsum : (table ++ [e]).length + entries.length
                      = table.length + (e :: entries).length := by
                    rw [List.length_append, List.length_singleton, List.length_cons]
                    omega
                  rw [Option.bind_some, Option.bind_some, Option.bind_some, hsum,
                    List.append_assoc, List.singleton_append]
  rw [constOdLoadFile, readLoop_eq, reads_room, hfold _ _ (Nat.zero_le _)]
  cases hmap : (fileRows lineRoom text).mapM (constOdRow ulongMax) with
  | none => rfl
  | some entries =>
      have hfits : (entries.any fun row => row.data.length > constOdMaxData) = false := by
        rw [List.any_eq_false]
        intro e he
        have hle := constOdRows_fit hmap e he
        simpa using hle
      rw [Option.bind_some, Option.bind_some, loadOdFile, hfits, List.length_nil, Nat.zero_add,
        List.nil_append]
      rfl

end Rows

/-! ## The two key files -/

section Agreement

variable {ulongMax : Nat} {keys keys' : KeyStore} {k : ClientKeys}

/-- The key that the client has in a slot. -/
def loadedKey (k : ClientKeys) (slot : UInt8) : Option Key :=
  if k.sessionKeyLoaded slot then some (k.sessionKeys slot) else none

/-- Each slot of the server's range holds the same key on both sides, or none. -/
def Agree (keys : KeyStore) (k : ClientKeys) : Prop :=
  ∀ slot, keySlotInRange slot = true → keys.getKey slot = loadedKey k slot

/-- A key text gives both parsers the same 16 bytes. -/
theorem serverParse_key {tKey : CString} {buf : Key} (h : (serverParseHexStrict tKey buf).1 = 16) :
    KeyText tKey ∧ (serverParseHexStrict tKey buf).2 = slice 16 0 (hexBytes tKey) ∧
      ∀ old : Key, (hexResult tKey old 0).buf = slice 16 0 (hexBytes tKey) := by
  have htext : HexText 16 tKey := by
    by_contra hno
    rw [serverParse_rejected hno] at h
    cases h
  have hcount := (length_hexBytes htext).1
  rw [serverParse_accepted htext] at h ⊢
  refine ⟨⟨htext, by omega⟩, store_full buf h, fun old => ?_⟩
  rw [hexResult_accepted htext]
  exact store_full old h

/-- **A row that the server parses**, for a slot of its range, the client takes. -/
theorem loadRow_of_serverRow {row : List CString} {r : KeyRow}
    (h : serverRow ulongMax row = some r) (hrange : keySlotInRange r.keyId = true) :
    k.loadRow ulongMax row = (true, (k.setBytes r.keyId r.key).setLoaded r.keyId) := by
  match row, h with
  | tKid :: fields, h =>
      rw [serverRow] at h
      cases hnum : wholeNumber ulongMax tKid 0 with
      | none =>
          rw [hnum] at h
          cases h
      | some kid =>
          rw [hnum] at h
          dsimp only at h
          by_cases hkid : kid < 1 ∨ kid > 255
          · rw [if_pos hkid] at h
            cases h
          · rw [if_neg hkid] at h
            match fields, h with
            | tLabel :: tKey :: more, h =>
                dsimp only at h
                by_cases hparse : (serverParseHexStrict tKey (zero 16)).1 = 16
                · obtain ⟨hkey, hserver, hclient⟩ := serverParse_key hparse
                  rw [if_neg (by simp [hparse]), Option.map_eq_some_iff] at h
                  obtain ⟨idv, -, hr⟩ := h
                  subst hr
                  have hslot : ¬ (kid = 0 ∨ kid > keyidMax.toNat) := by
                    -- the store's range, 1 to 4, is inside the client's
                    have hle : (UInt8.ofNat kid).toNat ≤ 4 := by
                      rw [keySlotInRange, Bool.and_eq_true, decide_eq_true_eq,
                        decide_eq_true_eq] at hrange
                      exact UInt8.le_iff_toNat_le.mp hrange.2
                    rw [UInt8.toNat_ofNat', Nat.mod_eq_of_lt (by omega)] at hle
                    have hmax : keyidMax.toNat = 15 := rfl
                    omega
                  have hrow : ClientKeys.rowKey ulongMax (tKid :: tLabel :: tKey :: more)
                      = some (UInt8.ofNat kid, tKey) := by
                    rw [ClientKeys.rowKey, hnum]
                    exact if_neg hslot
                  have hok := (hexResult_key tKey (k.sessionKeys (UInt8.ofNat kid))).2.mpr hkey
                  rw [ClientKeys.loadRow, hrow]
                  dsimp only
                  rw [parseHexToBuf, hok, hclient, hserver]
                  rfl
                · rw [if_pos (by simpa using hparse)] at h
                  cases h

/-- A slot that the server installs was empty on both sides, and holds the key on both. -/
theorem agree_install (hagree : Agree keys k) {r : KeyRow} (h : installRow keys r = some keys') :
    keySlotInRange r.keyId = true ∧ Agree keys' ((k.setBytes r.keyId r.key).setLoaded r.keyId) := by
  rw [installRow, KeyStore.setKeyEx] at h
  by_cases hrange : keySlotInRange r.keyId = true
  · rw [if_neg (by simp [hrange])] at h
    by_cases hhas : keys.hasKey r.keyId = true
    · rw [if_pos hhas] at h
      cases h
    · rw [if_neg hhas] at h
      cases h
      refine ⟨hrange, fun slot hslot => ?_⟩
      by_cases heq : slot = r.keyId
      · subst heq
        simp [KeyStore.getKey, loadedKey, hslot, ClientKeys.setBytes, ClientKeys.setLoaded]
      · have hbefore := hagree slot hslot
        simp only [KeyStore.getKey, hslot, if_true, loadedKey] at hbefore
        simpa [KeyStore.getKey, loadedKey, hslot, ClientKeys.setBytes, ClientKeys.setLoaded,
          Function.update_of_ne heq] using hbefore
  · rw [if_pos (by simpa using hrange)] at h
    cases h

/-- **Row by row**: what the server parses and installs, the client takes, without an error. -/
theorem loaders_run {rows : List (List CString)} {parsed : List KeyRow} {s : Loading}
    (hparsed : rows.mapM (serverRow ulongMax) = some parsed)
    (hfold : parsed.foldlM installRow keys = some keys') (hagree : Agree keys s.keys) :
    Agree keys' (rows.foldl (clientBody ulongMax) s).keys ∧
      (rows.foldl (clientBody ulongMax) s).anyError = s.anyError ∧
      (rows.foldl (clientBody ulongMax) s).loadedCount = s.loadedCount + parsed.length := by
  induction rows generalizing parsed keys s with
  | nil =>
      cases hparsed
      cases hfold
      exact ⟨hagree, rfl, rfl⟩
  | cons row rows ih =>
      rw [List.mapM_cons] at hparsed
      obtain ⟨r, hrow, hparsed⟩ := Option.bind_eq_some_iff.mp hparsed
      obtain ⟨rest, hrest, hparsed⟩ := Option.bind_eq_some_iff.mp hparsed
      cases hparsed
      rw [List.foldlM_cons] at hfold
      obtain ⟨keys₁, hinstall, hfold⟩ := Option.bind_eq_some_iff.mp hfold
      obtain ⟨hrange, hagree₁⟩ := agree_install hagree hinstall
      have hbody : clientBody ulongMax s row
          = ⟨(s.keys.setBytes r.keyId r.key).setLoaded r.keyId, s.loadedCount + 1,
            s.anyError⟩ := by
        rw [clientBody, loadRow_of_serverRow hrow hrange]
        rfl
      rw [List.foldl_cons, hbody]
      obtain ⟨hkeys, herror, hcount⟩ := ih (s := ⟨(s.keys.setBytes r.keyId r.key).setLoaded r.keyId,
        s.loadedCount + 1, s.anyError⟩) hrest hfold hagree₁
      refine ⟨hkeys, herror, ?_⟩
      rw [hcount, List.length_cons]
      show s.loadedCount + 1 + rest.length = _
      omega

/-- **The loaders agree**: a text that the server loads into an empty store, the client loads
    without an error, and each slot of the server's range is then the same on both sides. -/
theorem loaders_agree (ulongMax : Nat) (text : Text) (keys : KeyStore)
    (h : serverLoadKeyFile ulongMax text {} = some keys) (k : ClientKeys)
    (hempty : ∀ slot, k.sessionKeyLoaded slot = false) :
    (clientLoadFile ulongMax text k).1 = 0 ∧
      ∀ slot : UInt8, 1 ≤ slot → slot ≤ 4 →
        keys.getKey slot = loadedKey (clientLoadFile ulongMax text k).2 slot := by
  rw [serverLoadKeyFile_eq] at h
  obtain ⟨parsed, hparsed, h⟩ := Option.bind_eq_some_iff.mp h
  rw [loadKeyFile] at h
  cases hrows : parsed with
  | nil =>
      rw [hrows] at h
      cases h
  | cons r rest =>
      have hfold : parsed.foldlM installRow {} = some keys := by
        rw [hrows] at h ⊢
        exact h
      have hstart : Agree {} ({ keys := k } : Loading).keys := by
        intro slot hslot
        rw [loadedKey, hempty slot, KeyStore.getKey, hslot]
        rfl
      obtain ⟨hagree, herror, hcount⟩ := loaders_run hparsed hfold hstart
      rw [hrows, List.length_cons] at hcount
      have hloaded : ((fileRows lineRoom text).foldl (clientBody ulongMax) { keys := k }).loadedCount
          ≠ 0 := by
        rw [hcount]
        omega
      have hresult : clientLoadFile ulongMax text k
          = (0, ((fileRows lineRoom text).foldl (clientBody ulongMax) { keys := k }).keys) := by
        rw [clientLoadFile, clientLoop_eq]
        dsimp only
        rw [if_neg hloaded, herror]
        rfl
      rw [hresult]
      refine ⟨rfl, fun slot hlow hhigh => hagree slot ?_⟩
      rw [keySlotInRange, Bool.and_eq_true, decide_eq_true_eq, decide_eq_true_eq]
      exact ⟨hlow, hhigh⟩

end Agreement

/-- A key file of one row. -/
def sampleKeyText : Text := ascii "0x2 label 00:11:22:33:44:55:66:77:88:99:AA:BB:CC:DD:EE:FF 7\n"

/-- `loaders_agree` for that file. -/
theorem sampleKeyText_agrees : ∃ keys, serverLoadKeyFile 0xFFFFFFFF sampleKeyText {} = some keys ∧
    (clientLoadFile 0xFFFFFFFF sampleKeyText {}).1 = 0 ∧
      ∀ slot : UInt8, 1 ≤ slot → slot ≤ 4 →
        keys.getKey slot = loadedKey (clientLoadFile 0xFFFFFFFF sampleKeyText {}).2 slot := by
  have hloads : (serverLoadKeyFile 0xFFFFFFFF sampleKeyText {}).isSome = true := by decide +kernel
  obtain ⟨keys, hkeys⟩ := Option.isSome_iff_exists.mp hloads
  exact ⟨keys, hkeys, loaders_agree 0xFFFFFFFF sampleKeyText keys hkeys {} fun _ => rfl⟩

/-! ## The rows of a file -/

/-- **The rows that are loaded**: each loader works on the rows of its reads, and these are the rows
    of the lines, up to the first `#` of each, exactly when every line is read `Whole`. -/
theorem file_rows_iff (ulongMax : Nat) (text : Text) (hnul : 0 ∉ text) :
    (∀ keys, serverLoadKeyFile ulongMax text keys
      = ((fileRows lineRoom text).mapM (serverRow ulongMax)).bind (loadKeyFile keys)) ∧
    (constOdLoadFile ulongMax text
      = ((fileRows lineRoom text).mapM (constOdRow ulongMax)).bind loadOdFile) ∧
    (∀ keys, clientLoop ulongMax text keys
      = some ((fileRows lineRoom text).foldl (clientBody ulongMax) { keys })) ∧
    (fileRows lineRoom text = realRows text ↔
      ∀ line ∈ lines text, Whole (reads lineRoom line)) :=
  ⟨serverLoadKeyFile_eq ulongMax text, constOdLoadFile_eq ulongMax text,
    clientLoop_eq ulongMax text, fileRows_eq_iff (by decide) hnul⟩

/-! ### Worked runs -/

/-- A row behind 300 blanks, which take a read of their own, and a comment. -/
def sampleIndented : Text :=
  List.replicate 300 0x20 ++ ascii "2 label 00112233445566778899AABBCCDDEEFF\n# 3 keys\n"

/-- `file_rows_iff` for that file: its one row is loaded, and nothing else. -/
theorem sampleIndented_rows : fileRows lineRoom sampleIndented
    = [[ascii "2", ascii "label", ascii "00112233445566778899AABBCCDDEEFF"]] := by
  have hwhole : ∀ line ∈ lines sampleIndented, Whole (reads lineRoom line) := by decide +kernel
  have hreal : realRows sampleIndented
      = [[ascii "2", ascii "label", ascii "00112233445566778899AABBCCDDEEFF"]] := by
    decide +kernel
  rw [(file_rows_iff 0xFFFFFFFF sampleIndented (by decide +kernel)).2.2.2.mpr hwhole, hreal]

/-- A file of one comment, which has a row's characters behind its 255th. -/
def sampleComment : Text :=
  ascii "#" ++ List.replicate 254 0x20 ++ ascii "2 label 00112233445566778899AABBCCDDEEFF\n"

/-- **A key from a comment**: the file has no row, and the server installs a key from it. -/
theorem comment_installs : realRows sampleComment = [] ∧
    fileRows lineRoom sampleComment ≠ realRows sampleComment ∧
    ∃ keys, serverLoadKeyFile 0xFFFFFFFF sampleComment {} = some keys ∧
      keys.hasKey 2 = true := by
  have hreal : realRows sampleComment = [] := by decide +kernel
  have hloads : ((serverLoadKeyFile 0xFFFFFFFF sampleComment {}).map fun keys => keys.hasKey 2)
      = some true := by decide +kernel
  obtain ⟨keys, hkeys, hkey⟩ := Option.map_eq_some_iff.mp hloads
  refine ⟨hreal, fun heq => ?_, keys, hkeys, hkey⟩
  rw [hreal] at heq
  exact absurd heq (by decide +kernel)

end SofaKeyFiles
