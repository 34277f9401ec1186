/-! Powers of whole numbers are those of the core library in every module, whatever a module
imports besides. -/

attribute [instance (20000)] instPowNat
attribute [default_instance (20000)] instPowNat
