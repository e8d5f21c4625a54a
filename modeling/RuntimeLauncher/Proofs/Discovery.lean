import RuntimeLauncher.Discovery
import RuntimeLauncher.Proofs.Store.Session

/-!
# Discovery restores the store

Looking for the runtime opens up to two keys and looking for the proxy opens one. Each of them is
closed again on every way out.

## Main Statements

* `locateRuntime_restores`, `resolveProxy_restores` — both have an answer on every store and leave
  the store as it was
-/

namespace RuntimeLauncher

/-- **Looking for the runtime restores the store,** whichever of its four steps fails. -/
theorem locateRuntime_restores (settings : RuntimeSettings) :
    (locateRuntime settings).Restores := by
  refine Session.restores_withKey Store.release_of_grant (fun _ => Session.restores_pure _) ?_
  intro key
  split
  · exact Session.restores_pure _
  · refine Session.restores_withKey Store.release_of_grant
      (fun _ => Session.restores_pure _) ?_
    intro install
    split
    · exact Session.restores_pure _
    · exact Session.restores_bind (Session.restores_log (Logged.yields_emit _))
        fun _ => Session.restores_pure _

/-- The runtime is found in four steps, and each reads what the one before it found. -/
theorem locateRuntime_answers_ok {settings : RuntimeSettings} {store opened again : Store}
    {key install : Store.Handle} {version home : String}
    (hkey : store.open settings.hive settings.key = .ok (key, opened))
    (hversion : key.readString settings.versionValue = .ok version)
    (hinstall : opened.openSubkey key version = .ok (install, again))
    (hhome : install.readString settings.homeValue = .ok home) :
    (locateRuntime settings).Answers store (.ok (home ++ settings.binarySuffix)) := by
  refine .withKey hkey (Store.release_of_grant hkey) ?_
  simp only [hversion]
  refine .withKey hinstall (Store.release_of_grant hinstall) ?_
  simp only [hhome]
  exact (Session.Answers.log (Logged.yields_emit _)).bind (.pure _)

theorem proxyNote_restores (text : String) : (proxyNote text).Restores :=
  Session.restores_log (Logged.yields_emit _)

/-- **Looking for the proxy restores the store.** -/
theorem resolveProxy_restores (settings : ProxySettings) :
    (resolveProxy settings).Restores := by
  refine Session.restores_withKey Store.release_of_grant ?_ ?_
  · intro e
    exact Session.restores_bind (proxyNote_restores _) fun _ => Session.restores_pure _
  · intro key
    split <;> exact Session.restores_bind (proxyNote_restores _) fun _ => Session.restores_pure _

end RuntimeLauncher
