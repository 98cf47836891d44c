import TestScout.Proofs.Json.Record
import TestScout.Settings.Json

/-!
Settings through JSON. Every field of every section has a value of its own when it is not given, so
an object is read as soon as each field that it does give can be read; what the settings are
written as gives all of them.
-/

namespace TestScout

open Json

lemma PatternPolicy.read_name (p : PatternPolicy) : PatternPolicy.read (.str p.name) = .ok p := by
  cases p <;> rfl

namespace RunnerSettings

lemma read_obj {members : List (String × Json)} {s : RunnerSettings}
    (hpackage : packageField.Means members s.package) (hentry : entryField.Means members s.entry)
    (hexecutable : executableField.Means members s.executable)
    (hmanifest : manifestField.Means members s.manifest)
    (hhops : maxHopsField.Means members s.maxHops) : read (.obj members) = .ok s := by
  have hpass : ∀ slot ∈ slots, slot.Passes members := by
    simp [slots, hpackage.1, hentry.1, hexecutable.1, hmanifest.1, hhops.1]
  rw [read, bind_of_ok (readFields_obj hpass), bind_of_ok hpackage.2, bind_of_ok hentry.2,
    bind_of_ok hexecutable.2, bind_of_ok hmanifest.2, bind_of_ok hhops.2]
  rfl

lemma read_toJson {s : RunnerSettings} (h : s.maxHops < 0x10000000000000000) :
    read s.toJson = .ok s :=
  read_obj (means_defaulting rfl rfl) (means_defaulting rfl rfl) (means_defaulting rfl rfl)
    (means_defaulting rfl rfl) (means_defaulting rfl (readNat_nat h))

end RunnerSettings

namespace Markers

lemma read_obj {members : List (String × Json)} {m : Markers}
    (hsuites : suitesField.Means members m.suites) (htests : testsField.Means members m.tests) :
    read (.obj members) = .ok m := by
  have hpass : ∀ slot ∈ slots, slot.Passes members := by
    simp [slots, hsuites.1, htests.1]
  rw [read, bind_of_ok (readFields_obj hpass), bind_of_ok hsuites.2, bind_of_ok htests.2]
  rfl

lemma read_toJson (m : Markers) : read m.toJson = .ok m :=
  read_obj (means_defaulting rfl (readStrings_texts _)) (means_defaulting rfl (readStrings_texts _))

end Markers

namespace LaunchSettings

lemma read_obj {members : List (String × Json)} {s : LaunchSettings}
    (hname : nameField.Means members s.name) (hconsole : consoleField.Means members s.console)
    (hpolicy : policyField.Means members s.policy)
    (hcode : justMyCodeField.Means members s.justMyCode)
    (hchildren : attachChildrenField.Means members s.attachChildren)
    (htask : taskBeforeField.Means members s.taskBefore) (henv : envField.Means members s.env)
    (hskip : skipFilesField.Means members s.skipFiles) : read (.obj members) = .ok s := by
  have hpass : ∀ slot ∈ slots, slot.Passes members := by
    simp [slots, hname.1, hconsole.1, hpolicy.1, hcode.1, hchildren.1, htask.1, henv.1, hskip.1]
  rw [read, bind_of_ok (readFields_obj hpass), bind_of_ok hname.2, bind_of_ok hconsole.2,
    bind_of_ok hpolicy.2, bind_of_ok hcode.2, bind_of_ok hchildren.2, bind_of_ok htask.2,
    bind_of_ok henv.2, bind_of_ok hskip.2]
  rfl

end LaunchSettings

namespace Settings

lemma read_obj {members : List (String × Json)} {s : Settings}
    (hrunner : runnerField.Means members s.runner)
    (hdiscovery : discoveryField.Means members s.discovery)
    (hlaunch : launchField.Means members s.launch) : read (.obj members) = .ok s := by
  have hpass : ∀ slot ∈ slots, slot.Passes members := by
    simp [slots, hrunner.1, hdiscovery.1, hlaunch.1]
  rw [read, bind_of_ok (readFields_obj hpass), bind_of_ok hrunner.2, bind_of_ok hdiscovery.2,
    bind_of_ok hlaunch.2]
  rfl

end Settings

end TestScout
