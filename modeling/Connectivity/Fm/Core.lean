import Mathlib.Data.List.Basic

set_option autoImplicit false

/- The FM core below the service: the band it is configured for, and what its functions
return before they come to the driver. -/
namespace Connectivity.Fm

def errInvalidPara : Int := 1002

def errInvalidFd : Int := 1007

/-- The bands `FM_BAND_UNKNOWN`, `FM_BAND_UE` and so on. -/
inductive Band
  | unknown | ue | japan | japanw | special
deriving DecidableEq, Repr

/-- The part of `CUST_cfg_ds` that bounds a frequency, and the chip the driver has to be for. -/
structure CustCfg where
  chip : Int
  band : Band
  lowBand : Int
  highBand : Int
  lowBandCust : Int
  highBandCust : Int
deriving DecidableEq, Repr

namespace CustCfg

variable (cfg : CustCfg)

/-- `FMR_set_customized_band_boundary`. -/
def setCustomizedBandBoundary (low high : Int) : CustCfg :=
  { cfg with lowBandCust := low, highBandCust := high }

/-- `FMR_set_region`; the boundaries of the special band are the customized ones. -/
def setRegion (band : Band) : CustCfg :=
  match band with
  | .japan => { cfg with band := band, lowBand := 7600, highBand := 9600 }
  | .japanw => { cfg with band := band, lowBand := 7600, highBand := 10800 }
  | .ue => { cfg with band := band, lowBand := 8750, highBand := 10800 }
  | .special => { cfg with band := band }
  | .unknown => { cfg with band := band }

/-- `FMR_get_band_boundary`. -/
def getBandBoundary : Int × Int :=
  if cfg.band ≠ .special then (cfg.lowBand, cfg.highBand)
  else (cfg.lowBandCust, cfg.highBandCust)

def outside (freq : Int) : Bool :=
  decide (freq < cfg.getBandBoundary.1 ∨ cfg.getBandBoundary.2 < freq)

/-- What `FMR_tune` returns when the driver returns `driver`. -/
def tune (freq driver : Int) : Int := if cfg.outside freq then -errInvalidPara else driver

/-- `FMR_seek`, with the station that `FMR_seek_Channel` stores if it returns 0; otherwise
nothing is stored. -/
def seek (start : Int) (channel : Option Int) : Option Int :=
  if cfg.outside start then none else channel

/-- What `FMR_pwr_up` returns when the driver returns `driver`; it does not look at the
customized boundaries. -/
def pwrUp (freq driver : Int) : Int :=
  if freq < cfg.lowBand ∨ cfg.highBand < freq then -errInvalidPara else driver

end CustCfg

end Connectivity.Fm
