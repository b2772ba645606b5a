import KernelControls.Family

/-!
# The built-in families

Six families are known without any definition file, in the order in which they are
offered.  All their ranges start at zero.
-/

namespace KernelControls.Family

/-- The directory of the display's colour nodes. -/
def colorDirectory : String :=
  "/sys/devices/virtual/misc/color_tuning/"

/-- The directory of the sound driver's in-call nodes. -/
def soundDirectory : String :=
  "/sys/devices/virtual/misc/voodoo_sound/"

/-- The multiplier of one colour.  Its node counts in halves, so it holds twice the value. -/
def multiplier (color : String) : Control where
  name := color ++ "_multiplier"
  path := colorDirectory ++ color ++ "_multiplier"
  codec := .linear 2
  maximum := 2147483647
  default := 2147483647

/-- The gamma offset of one colour. -/
def gamma (color : String) : Control where
  name := color ++ "_gamma"
  path := colorDirectory ++ color ++ "_v1_offset"
  codec := .signedOffset
  maximum := 40
  default := 0

/-- Colour multipliers and gamma offsets. -/
def colorTuning : Family where
  id := "color_tuning"
  name := "Color tuning"
  controls := ["red", "green", "blue"].map multiplier ++ ["red", "green", "blue"].map gamma

/-- The image scenario, an index into the list of scenarios. -/
def imageScenario : Family where
  id := "mdnie"
  name := "mDNIe scenario"
  mode := .direct
  controls :=
    [{ name := "scenario"
       path := "/sys/class/mdnieset_ui/switch_mdnieset_ui/mdnieset_ui_file_cmd"
       maximum := 5
       default := 0 }]

/-- The volume boost of one output during a call. -/
def boost (output : String) : Control where
  name := "boost_" ++ output
  path := soundDirectory ++ "incall_boost_" ++ output
  maximum := 3
  default := 2

/-- The microphone gain of one input during a call. -/
def gain (input : String) (default : Int64) : Control where
  name := "mic_" ++ input
  path := soundDirectory ++ "incall_mic_gain_" ++ input
  maximum := 31
  default := default

/-- Volume boost and microphone gain during a call. -/
def volumeBoost : Family where
  id := "volume_boost"
  name := "Volume boost"
  controls := ["rcv", "bt", "spk", "hp"].map boost ++
    [gain "rcv" 19, gain "spk" 31, gain "hp" 29, gain "hp_no_mic" 18]

/-- The audio switch of one dock. -/
def dock (place : String) : Control where
  name := place ++ "_audio"
  path := "/sys/class/misc/dockaudio/" ++ place ++ "_enable"
  maximum := 1
  default := 0

/-- Audio routing to the car dock and the desk dock. -/
def dockAudio : Family where
  id := "dock_audio"
  name := "Dock audio"
  mode := .direct
  controls := ["cardock", "deskdock"].map dock

/-- The timeout of the touch keys' light, an index into the list of timeouts. -/
def touchKeyBacklight : Family where
  id := "touchkey_backlight"
  name := "Touch key backlight timeout"
  mode := .direct
  controls :=
    [{ name := "timeout"
       path := "/sys/class/misc/notification/bl_timeout"
       maximum := 5
       default := 0 }]

/-- The intensity of the vibrator. -/
def vibration : Family where
  id := "vibration"
  name := "Vibration intensity"
  controls :=
    [{ name := "intensity"
       path := "/sys/class/timed_output/vibrator/pwm_value"
       maximum := 100
       default := 50 }]

/-- All built-in families, in order. -/
def builtin : List Family :=
  [colorTuning, imageScenario, volumeBoost, dockAudio, touchKeyBacklight, vibration]

/-! ## They are without fault -/

theorem fault?_builtin : ∀ family ∈ builtin, family.fault? = none := by
  decide +kernel

end KernelControls.Family
