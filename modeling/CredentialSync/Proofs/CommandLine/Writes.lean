import CredentialSync.CommandLine.Process
import CredentialSync.Proofs.Bridge.Stable
import CredentialSync.Proofs.CommandLine.Memos
import CredentialSync.Proofs.Store.Ledger
import CredentialSync.Proofs.Store.Versions

/-!
# Writes of the command line

A command makes one change to the store, in a batch of its own. On a device whose store shows some
records and metadata (`Store.Shows`), a change that the records grant is committed, and the store shows
the records behind it, and metadata with the memos of what was reported
(`Device.Engaged.single_shows`). Any other change leaves everything as it was (`single_fails`).

The memos are written by the relay in a transaction of its own, behind the one of the change. The relay
of an `Engaged` device is registered once, so that it is called once for each batch.
-/

namespace CredentialSync

open Attempt CommandLine

/-! ## 1. Metadata within a scope -/

/-- The ledger with some changes to the metadata. -/
def Ledger.write (l : Ledger) (ws : List MetadataWrite) : Ledger :=
  { l with page := { l.page with metadata := ws.foldl MetadataBatch.apply l.page.metadata } }

namespace Work

variable {l : Ledger}

theorem shows_writes {π : Type} {ws : List MetadataWrite} {s : Scope π} (h : s.store.Shows l)
    (hfault : s.writeFault = none) (hws : ∀ w ∈ ws, w.Fits) :
    (ws.foldl writeOne s).store.Shows (l.write ws) ∧ (ws.foldl writeOne s).writeFault = none := by
  induction ws generalizing s l with
  | nil => exact ⟨h, hfault⟩
  | cons w ws ih =>
    obtain ⟨t, hw, -, hshows⟩ := h.writeMetadata (hws w List.mem_cons_self)
    have hone : writeOne s w = { s with store := t, asked := s.asked ++ [w] } := by
      simp [writeOne, hfault, hw]
    rw [List.foldl_cons, hone]
    exact ih (l := l.write [w]) hshows hfault fun w' hw' => hws w' (List.mem_cons_of_mem _ hw')

/-- **Announcing changes writes the memos of them.** -/
theorem shows_announce (cs : List LocalChange) {s : Scope Forwarder} (h : s.store.Shows l)
    (hfault : s.writeFault = none) :
    ∃ n s', (Device.announce cs).perform s = (.ok n, s') ∧
      s'.store.Shows (l.write (cs.map LocalChange.memo)) ∧ s'.writeFault = none := by
  induction cs generalizing s l with
  | nil => exact ⟨_, s, rfl, h, hfault⟩
  | cons c cs ih =>
    obtain ⟨t, htell⟩ : ∃ t, (tell c.call.deliver).perform s = (.ok (), t) := ⟨_, rfl⟩
    have ht : t.store.Shows (l.write [c.memo]) ∧ t.writeFault = none := by
      rw [perform_tell, (Forwarder.deliver_call c s.processor).1] at htell
      cases htell
      exact shows_writes (s := { s with processor := (c.call.deliver s.processor).2 }) h hfault
        fun w hw => List.mem_singleton.1 hw ▸ c.fits_memo
    obtain ⟨n, s', hannounce, hshows, hwritten⟩ := ih ht.1 ht.2
    refine ⟨if c.kind = .remove then (n.1, n.2 + 1) else (n.1 + 1, n.2), s', ?_, hshows, hwritten⟩
    rw [Device.announce_cons, bind_of_ok htell, bind_of_ok hannounce]
    rfl

end Work

namespace Device

variable {d : Device Forwarder} {p : Page}

/-! ## 2. Telling the forwarder -/

/-- **Forwarding a batch writes the memos of its changes.** -/
theorem forward_shows (h : d.store.Shows { page := p }) (batch : ChangeBatch) :
    ∃ d', (forward batch).perform d = (.ok (), d') ∧
      d'.store.Shows (Ledger.write { page := p } (batch.changes.map LocalChange.memo)) := by
  obtain ⟨s, hbegin, -, hbegun⟩ := h.begin rfl
  obtain ⟨⟨puts, deletes⟩, t, hannounce, hannounced, hfault⟩ :=
    Work.shows_announce batch.changes (s := (d.withStore s).scope) hbegun rfl
  obtain ⟨u, hcommit, -, hcommitted⟩ := hannounced.commit (by simp [Ledger.write])
  have honCommit : (onStore Store.commit).perform ((d.withStore s).putScope t) =
      (.ok (), ((d.withStore s).putScope t).withStore u) := perform_onStore hcommit
  refine ⟨((((d.withStore s).putScope t).withStore u).measure .relayPut puts
    |>.measure .relayDelete deletes
    |>.tally (Stats.addRelayed (UInt64.ofNat (puts + deletes)))), ?_, hcommitted⟩
  unfold forward
  rw [bind_of_ok (perform_onStore hbegin), perform_bind, perform_get]
  simp only [hannounce, hfault, perform_bind, perform_modify, perform_ofExcept, honCommit]

/-- The forwarder tracks, and the relay of its bridge is the one observer. -/
structure Engaged (d : Device Forwarder) : Prop where
  relay : ∃ b, d.bridge = some b ∧ d.notifier.live = [b.relay]
  tracking : d.processor.tracking = true

/-- **Telling everyone of a batch of this device writes the memos of its changes.** -/
theorem Engaged.told_shows (h : d.Engaged) (hs : d.store.Shows { page := p })
    (cs : List LocalChange) :
    (d.told .device cs).store.Shows (Ledger.write { page := p } (cs.map LocalChange.memo)) := by
  obtain ⟨b, hb, hlive⟩ := h.relay
  cases cs with
  | nil => exact hs
  | cons c cs =>
    have hpruned : Store.Shows { d with notifier := d.notifier.prune }.store { page := p } := hs
    obtain ⟨d', hforward, hshows⟩ := forward_shows hpruned ⟨.device, c :: cs⟩
    show (d.notify ⟨.device, c :: cs⟩).store.Shows _
    have hrelay : d.bridge.any (·.relay == b.relay) = true := by rw [hb]; exact beq_self_eq_true _
    have hcalled : Device.callObserver ⟨.device, c :: cs⟩ { d with notifier := d.notifier.prune }
        b.relay = d' := by
      rw [Device.callObserver, if_pos hrelay]
      exact relay_of_local rfl h.tracking hforward
    rw [notify_eq, hlive, List.foldl_cons, List.foldl_nil, hcalled]
    exact hshows

/-- The device keeps the versions that its store notes, whatever it writes. -/
theorem notes_write {β : Type} {vs : Option (List Int64)} (h : d.store.Notes vs) (w : Write β) :
    (d.write w).2.store.Notes vs := by
  have hvs := Store.stable_notes vs
  have hall : Processor.Unmoved fun _ : Forwarder => True := fun _ _ _ _ => trivial
  have hd : d.Holds (Store.Notes vs) fun _ => True := ⟨h, trivial⟩
  exact (hd.batch hvs hall .bridge .device fun _ hd' => hd'.write hvs hall []).store

/-! ## 3. Single changes -/

/-- A command edits the store once, and fails if that does. -/
theorem run_single (e : Edit) (d : Device Forwarder) :
    (single e).run [] d = match e.attempt.perform d.store with
      | (.ok cs, s) => (⟨(), cs, none⟩, d.withStore s)
      | (.error cause, s) => (⟨(), [], some cause⟩, d.withStore s) := by
  rw [single, Write.run_edit]
  rcases e.attempt.perform d.store with ⟨_ | _, _⟩ <;> rfl

/-- **A change that the records grant** is committed, and its memos are written. -/
theorem Engaged.single_shows (h : d.Engaged) (hs : d.store.Shows { page := p }) {e : Edit}
    {cs : List LocalChange} {v : Vault} (hedit : p.vault.edit d.store.replaces e = some (cs, v)) :
    ∃ d', d.write (single e) = (.committed () cs, d') ∧
      d'.store.Shows (Ledger.write { page := { p with vault := v } } (cs.map LocalChange.memo)) := by
  obtain ⟨s, hbegin, hreplaces, hbegun⟩ := hs.begin rfl
  rw [← hreplaces] at hedit
  obtain ⟨t, hres, -, hedited⟩ := hbegun.edit hedit
  obtain ⟨u, hcommit, -, hcommitted⟩ := hedited.commit (by simp)
  have hsettled : Engaged (((d.withStore s).withStore t |>.withStore u).settled .bridge cs) := by
    obtain ⟨b, hb, hlive⟩ := h.relay
    exact ⟨⟨_, congrArg (Option.map _) hb, hlive⟩, h.tracking⟩
  refine ⟨_, ?_, hsettled.told_shows hcommitted cs⟩
  unfold Device.write batch
  rw [perform_onStore hbegin]
  simp only [run_single, store_withStore, hres]
  rw [perform_onStore hcommit]
  rfl

/-- **A change that the records do not grant** leaves everything as it was. -/
theorem single_fails (hs : d.store.Shows { page := p }) {e : Edit}
    (hedit : p.vault.edit d.store.replaces e = none) :
    ∃ cause d', d.write (single e) = (.abandoned () cause, d') ∧ d'.store.Shows { page := p } := by
  obtain ⟨s, hbegin, hreplaces, hbegun⟩ := hs.begin rfl
  rw [← hreplaces, ← hbegun.vault_eq] at hedit
  rcases hres : e.attempt.perform s with ⟨cause | cs, t⟩
  · obtain ⟨u, hrollback, hshows⟩ := hbegun.rollback_edit rfl hres
    have hend : (((d.withStore s).withStore t).abandon .bridge).store = u := by
      rw [abandon, onStore_perform, store_withStore, hrollback]
      rfl
    refine ⟨cause, ((d.withStore s).withStore t).abandon .bridge, ?_, hend ▸ hshows⟩
    unfold Device.write batch
    rw [perform_onStore hbegin]
    simp only [run_single, store_withStore, hres]
  · have hgranted := hbegun.able.edit_iff.1 ⟨cs, t, hres⟩
    rw [hedit] at hgranted
    cases hgranted

end Device

end CredentialSync
