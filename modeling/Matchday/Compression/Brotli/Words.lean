import Matchday.Compression.Inflate

set_option autoImplicit false

namespace Matchday.Compression.Brotli

def sextet (c : Char) : Nat :=
  if c.isUpper then c.toNat - 65
  else if c.isLower then c.toNat - 71
  else if c.isDigit then c.toNat + 4
  else if c = '+' then 62
  else 63

def ofDigits : List Char → List UInt8
  | a :: b :: c :: d :: rest =>
    let n := ((sextet a * 64 + sextet b) * 64 + sextet c) * 64 + sextet d
    UInt8.ofNat (n / 65536) :: UInt8.ofNat (n / 256) :: UInt8.ofNat n :: ofDigits rest
  | _ => []

def packedWords : String :=
  "PL3pchzHtS7624jgO5TaZ4vENtEASU0mBgdHSd4auAXKvts+DkV2VXZ3AdVVrcoqgE1JEeCAgeAAUpwFzjMlAiA4YiCBiMMXo
    P6R/xTnorobEfch7vethGwZEtCdlZXDGr61cq2ViV/RXjQYBn5RB7qYFJTb70ae9lSiTDkajMKgZvxEu35Si6o67EtNEvj9uh
    hrPRjF/Ynel9S0iqMBHRcirxbgl2IUVwpR1F8NVC3wB3Tgh7qsg2o5qmjje7oSxXzWC6KwlJR1ZcDXg0U/9KqqhPfWTDENgrJ
    WXqLjilZuWcVaFeOoksSprqi4XxUCnVajsOyXyhinDlTohXrQ6AEdhhiPq4wuREm5GpkkNdqrKE+X0aas8d6ySkJV0Z/5YX8h
    iErG368LaI/xoV0/+vdDPBOvb3X+VI4CT4eeGfST8hfoH8PwBtGH8UthgrZlNaBL6MtoHboqCKoqKQ9q/DdITUWHadEPKlUVJ
    32RHyZl3wS+SUpRhLFqbxDzHNQG3xVMBXNXgYkwnCj23TLebwJlkkQrTLdSK+KZfj8sDfpBoPH5oIq9Ap4t+rHegzXrD6NBhQ
    7z1bBUwfonmGwQKa+EtTc6KIZRoiupWy5qrkVYiyO333ejMApdHWCfytgTz9feJ9ifOA10Geum+tQ+PyxGbpAWAjVoAm1MWQV
    Fwz1EX/ujUG/q6PgP/Me42KC9oKNYuboQpNj/NB7Uur+Iv8sgmhLWCZuI/cbYyzrEmvT362pSVQad+tU4iiqf7P38M9BLuLdW
    BT2iUzzTr3W1GKgS6Kcfq+MVMZ8E442x5wloti+tVBOslof+MAZ8DwoGLWL0tX6sFdYhKWJfVJpEoI0474KGVNAPuq4OYE089
    F8BrWNHkySNw0KEH9AJOCGII6PTONhgsPBxFGg8ClJMDJYbe6uxj4GX76uWwBqVARXX8EwCWg4NCMaLo+rfQNNuVK1tynfkut
    pVj0mwEAF2w8fLsD5V8Fm+5BexBolrzF9KsarhDeG7paQzxn5gjEmAeRrlozvl4R0O9i/oi8ohaKS/GsWYm0nWf72tzQNddrU
    XeqpRFBc4b6zh1/ne/CDopgJ+3Vzd1/kp9jJWYf8g+h5UIWgoIDF5/+z4V2dVpcEg1tuksf5fG9b/cVD5SQV7A9ozpUibEngC
    W1OqYizvtLU5AegnDf0E+8Z++kGHlUHIj32VIGfI05ji5o7qPiwdxj6I+UZBMQrRpx8YVcS36FlVjQs5EKPvYhANFlShZqoqN
    OCL9zDeD/AD1jGg/QR8Fwz6/T5kQmISEE7sY/ql9gA8OKhVf4K92A2ZA77HmoQGe9iP7a7FaWj60qAGSda/Cf2VIhWUIAIM3q
    e9kva97pzRiXkf3+X7zF/ew5j9orPBRBH2EXICdJikBb1fkxpCjEN7oOkE3Bxh60BecWXTR9V9LmRAGetewDj2g5YHIiyyMrU
    YPAuaDKoYo4/1ckH/W/CuPux9okqm4CcGtBWA+ZJ+CLAQtNuFBS5h0f7a++UXXprUvqB8UYGuRSnWPcES+WGf2r/fpWyqaVP0
    TXlwcDAf+wZ9Fkw11gObMA/8rTdjYtvBjx7GsaWjY2MBew4qwNjiELLEK0T78kXlxwHGg/Vi33Ffijlrt+wXN7xTBZ3pAT/4X
    xtyoIm4EuBZD/RQhXze2NHRwVl6sRosp2CKapQU09ArgI/KsS5CsgT9umYS9FEGvYP3Idd1sAnEaFI/waPBV729OYp87Ent41
    17c1gzrXzQHIfkewZL2xmqgVoJDJH4VfPHP//5zxgHZKNXA7+b1k7nh2q5+hfI7gB8HQxCwewvb83+s31diwPhBHkV5Ftatn2
    IfqqpKUOTJFiaThc08J/tXe1laLgPsUaQMUkMGea8+64DbRJgP6FdQFUYRMWHjOr3qwn2HzoK+iHQJdBMFZvxHtZ0Xcu6Fpf0
    DZmQx2C6CnGPBoNWsNel1IecDrBRBq8GkyhKpKjS7ldK7/7xo81BCl2LfrGUnSCqWgn0Vk4qlBKBF6el3V/t2hVCPoVYw7+AW
    ANSIdZ+gDoAvIX1c0D/cayDWgE6yIBWvLRfh8ooV1X1IGijlAbFvZu3bC2D1kD3SQkyBcIfui+NIa9qmzD/9etbO1s7cz0VA6
    Hlg3/82DOQLwUNzoEc37vpo63YekMGwPyDD7CIRdDD/x26aApRzUCG5NFFbs+XvXsLGE8/9q6184cfoLxqWDdvw9f/1fptqjz
    sTb0NCrcN/4PQr+KZdcAdyd5Nf9464LuQfl7N04WkBxODLAtCzXFGg3s3fbDVg2zTAyrYu+nDrQHWH3QLclRBFfwTRgMK/GBK
    OtTO/x06Y6IiZFNFJ77IcdNV3gLZmMZF4IAqdElXEvdA5/qt37+zAf/VGFezAHqCfIk7Olo7K37Q77S19fhxFALneB54axD7Z
    CI/qKaJae8z7cAGtb2bN2/9tHf7F3s3d2xVnqpgrfCuzT19EILrNzrroWKTvZs3bXUwH+hZiHpfVSBbutqrPSZKg88+/WIX+B
    F4JcYavLe1q7yp5yOsLURA159Bp3s73ttaAdba+t4H/wANaD90y/8DzAXy4phX1re2gq5j7ElJQ6eCtELgntDbuuXDf3wTFb9
    Z/6/WTtDWRrRtJJCJNeKGaDAogBe2vv/BP/6qBtQWvK/l+x9a/mPHlv/YuuW9f/TpYnHX/7PnU8jS8oAPdQfSNsAX6GP125Q6
    FPwA+oGuSrB2+QLo0AO9loFFIC+AkcJk65YP/vHJ3r172jZ3bCpG0NToY9cXO519EDhb33/vH9u/3Pk/HvrobPmhRe/z0f79f
    0C/GdBOsv6H1k5gkQSs3qmA5n74oav9n/6/8p9B//RX/s+jQbwnAc0pzzOQFgHYcV9nyx9+gMiKQuxlHoqho+P9VqxFrQ+i3o
    CowLGQs1ERa9HqbO7oAI2Dh7EYgH/AqeCJuOZiX5MaKEsDU/hRmIcyc6HnSngvdGL+fazTnnJ+J+QBoJ7gqxB83Q9agaZRIfT
    hPtCJC7pv8aBz3cCvtkL4fIjnsA4dO/+203z4r56uBHxJBOz/6U+tg9g3gIyoCuURVROo/EDv3vbfBnQStm3+YG9AeQ5a//qr
    z5xCGgCXR/2dP6xr+WTXtp3guVZVKEBeq3DDpj9/BHxWplDoavdBW5AlKXE0cIJf1d+3tbzT0bG5NQTQ/+emf3X+81+dLZ9FJ
    Qd6JVnX8oc/QF+WoFMrBcin1u/WtXSQJrAP/dHW/w9yDWvds85sbW938CCkIvFtaUPrdy1o6kBvrsf0ql6qoP9Ukv/rno9bsb
    HfplGC/7aAxyEhf1gHUngPP+/j5wP8fIifj/Dz580d8s8m/GzGzxb8oN1mtNuMdpvRbjPabUa7LWi3Be22oN0WtNuCdlvQbgv
    abWF/+GwTvtuENpvQtgPPdODZDnzXgTYdaNuBZ9ABFgM/aId/gdDw8xF+PsTPB/h5Hz/v4WcLfjbjZxN+0O4jtPsI7T5Cu4/Q
    7iO0+wjtPkK7j9DuI7T7CO0+RLsP0e5DtPsQ7T5Euw/R7kO0+xDtPkS7D9HuA7T7AO0+QLsP0O4DtPsA7T5Auw/Q7gO0+wDt3
    ke799HufbR7H+3eR7v30e59tHsf7d5Hu/cx4w7O+r1NW/4MtYTJ43/ArFHl1XVYE4km6KoCxySRF5WBy10ILPVqNir4ENCvpp
    Qyr6YGfA96wxBxRZBLES0S/K5c7K3n90Ww3SLg1BC6mBYFpCk4NihF36av7hPVhugTOgJQAJwDHVRQfXwfyTlSpVRVU0DMMAJ
    LAntDhgWpT1UHI6cWwZ5QEI5x1cf7C3hnwAZB5PkR+CLmuPzXz18/fP0SP0uvX/w69Prhr0O/Hvr1oHz29PUyPl3CX3No9RK/
    P5G/ll4/w3dL+GTu1+HXl9H2Kf6Z/fUoejj6+sdfj/56AN8+wu+P8N/L7OP17Our+PciesJTr6+9voXPn76+hLYH0e6KfPoC/
    T98fR4/Z/Bz+ddD+HwW73v6+gLe//T1/OuX+OwF/rmB5w69fvb2wNvxNzffjrwdfnMXP/NvD709jL/H3sy+mcE3d/H9kbejb8
    feHn47jJ9D+IS/j7659+Yxfj/85jaeHZU+xt8exDOj+OwX9HSPv0nbcfx+GG3530Nvnkivw2g//Hbkzc/4bBxtRt5MyRPD+OY
    J3v4E2N0k2HgdBbCmE5jlsIOxO0B1tPoJOQrEhzG/NdT+tOwBf0BDsC18t+jDciaojKs0c6GigfJgbQGRwUyHSIg94D+jAWrT
    Kj0Ghu4CA3KkEQdzfxC/0GSLrQAGMKTlDju7CokO7IP36jiGYRxC96pClCb0CwBYJgGtwUDM/gQ2CaQZjFCgw7gk7gUjtjmph
    7DZhVnqpsaF0RPT6AsKNGMI0WCDCJUpeiVgtyvaOxW8u+ZTs9JbYAC/Q9qh7B6vB9qAngEcAj6Akn8XgLET84CJHcWurlJB05
    CGRiv5oSriCehSPwGWTDW9GfgCuAaqU+9LIkBXImT0jE/xbJgAxBtTSP0gEdMXSkADfaVeDczo0bwOPUNTE//F0pVhCtPlYsC
    aUGtQx2gM6ENXgEc/RYhVG9BAuaZc9PfBvMaAwgjoL6bnBdgUOAs6UgUxDOyYFq35NoV+xpJUdTmtqBBamq4LX/wL0M7Q9l4B
    HOnCtHEpWrDiwOjlAHZRKMbPIESNpkPH0JtiPHYNERHrAqYPaz5NyjCT8CxeZ7DYSXmQ7hlO2gPpucRiCZczrSSwJyhU4oTOl
    NoOSIZ+WnAxfUvYUFiqgappIo+4xnfUUjHTuUwuFjbB5sUOQC3pqppWaR4bVa0GtU+5vwXgqlJahXCkn4TUhF6wpobmuMEGxR
    BQ2FoKwn66WmimEXADGpgUj1WVPIvuSVshvS4hiYa+I+3tJbFy4OZjcgBEWwh8QG9OhIUtKtAv/Uo1lYIIuVsG0w80fRXtnKB
    Hb5bxAHdrsMoCGksq6UthviZl+ihgV5qQgy7QTeBG9CfQGccJanpEjFtz+W+AYzpYDCVr/yC3GXhOh1Vfu4T1flDERDXNSnIe
    9LxfgcmqSB0+jEDCHjQHKdNlp0k9YL/ULRe4znFUAyoy/RqbBxSD+ZEswGAOVwJgPSnLjhJd1aJiESThRlXNxYSJBRYHeuBOW
    68cxEJMfwj0R5zERFMKtjimGoXYUBEyMDEId3spMj4j1YFWq7XIdWFq6mKyFbjdlEHFCdcAJiUZh343k8aAO0W+kgSMjeZapU
    nUid1JdJ72V4VMAmNPBf9DyjF4GaYKdIslHsSneC/N3hBS0Kdzwi1/xf7oioSEjN0ywY+mp8/QzWi8KC3AkqqFbgJuohUeDWI
    vdbFGNoD1ArOYdikoYQAbCt6lt9LsIF/2UnIReNf6xNMIOyoAznN1By3wXorNKvgzoN8FIJcSQSQ1DHgKc+sENfT0GLrkjKJz
    AptnNJEr5Xgog8YGVLGE+DOhi9XQx8Zva2Qw2OTYfENfLwV3TO4OSzCgt/Rwy0oE3e2VFPKXm+ztIXOiXeglEaQPYITvbaADt
    ECPCD1+7KUII80neQeBeHxrxTX/GowmtHXa22GCKY8GWqlWTXZRytNa7dxFYqUvOOfSuoN0DBNx5cK8yPWQiYH41QCdGLCE/f
    3alAA8Egz3vZ44omMY39bYwUbRHYQ0nhtTd/glGNGDkNCeAgFjQYzuoUdGh9983fvuH7f8uZNYd983JGooAgwt7APl96l9eUW
    rwYBlynS9OfQdE7xDnobQpqEayPXQCRCK14veRJAFVgPyPop7qXuIMrGDEAr0E5s+VRXxEMDs9kFz4JRYUeVgHpt7FGw4YC8w
    I7goVrm29va/0wVq6IcydBybPWRizDIpU+eFdE78xWAACZiXJAjwRQmX0P1axM5oqLLBXA/WH4wdp5SxUPR/oz7fTcmQD3XCL
    WmB+VxzvmuhR5Iec0O3FkkFq+2BBr7lYiex+AwLUUzHP2QHhgthS79IQqrUfryZJpX4s+nTMzvI2OBuSDhKdJ4TGDqU6AjFWt
    PnXSG7UKtRnvpG3NteStGs9ylTjMHtdI9s/P57MVSqOYwVm0e3RC6ie6GrELf3FDGv2NAn5+lqUnbsCQDY1KWU52mDOC87IWN
    KId1UZpCj4mg7IVy6c3RfQ2VhRp9j5k4+n+9qB3QNSwVOmocgDj2HnTxWAHnHcQ3SAsSui9QVJf0Nz0HyFdIGYIjCt9iuKk9Q
    5KCgqz2Je+j+MRy8o0AhFEA0dQOIsH3gEjoNyjylMVS4Ln3NjoEQN4BqobiGjbMBlEonuvcNMQRdn0awO0moX05ihBnJ5x6dA
    J2DVCeYm9EbWjtzznbCIzya7uujO74KmRjQydPT2ukXN7RRyHoKwBHwyujdhFaYPc9d9mmzl6oSSoKT0ZWegopzPXkTu90JJQ
    MEWHfOJTosg9Zqm98T0ZekVR90WSMOq4LpMQmQhviqDWVHHgJd8/hAB/QPmnbXmHaeQHTyiAICJS0WCz46pWff0P3X0Q9OU7B
    j17XQqw9Mo1Pd7Xz3Q+dH4gXkkcp3tH8VD5tcztcHWZV5vOXE5GeCVEPPcq6mylHUSmf5NiJQnlYZMOKmHthAaYkOZrHSu2mz
    mB9asYJ0dHZWKVXoUjQ8XzAd+z7o6OCpQU78uAWqjkRhwSo+RBnRWwAG62qncxkzgnBq4+aRpPKYR8sfKmQSB/b+n3dv+++u9
    jgq6bhIt/4O8sxmOkx5yGPoSeoCYyYJffFmM8cCCBb2tzrff+8E9AzyNCf4YwdEmgNycnhu5w1yxSngOvvU1v/3oPFB1V303M
    eADjUee8B+I/zFglUT6pntlJ2tzjvdjkfMSq8HXS0VqKN+XavAvAx4opanG9upEjuDp8MaPYmGCCe3icsxSEBOD1ald++2r/a
    SthwfODbc6MCWpzuhhQA3P+ADDIgrFfIlBF9Cy/AAjNA6CqvkX/JMS9QG3MJTCTlqMdSUDp1vIb0u3ykvKuj13Ezf697UQYXQ
    yeM6J785X/F5iJaj2xtQA9uzg5irAHGoN3Ok2OTWP/GX7+nEBv9BE5fJ4ps2d+QcqliIvp51LVQQ3Z4PEECOxxdYcMrOlj8Wi
    0UwESALEV6O8AHKGo+10vu8SXgBOKsaWocz7CFuxSEeVbhcxBwnLadDpg281ubR0Gp5N0g66Xk1W9/76B9dPLtti1MwGk+eHC
    pIoPV+MRWqptvJ5TqhDKCPuGqbeCIB8a9CutEjSsPuqPs/Nu92KI1gmhd0l18pOfjJ9Wx0in2Gvzk5rt/ne6Pqdp7Y5UI9GNR
    2Yk/63f1asLIfECuTSd7vKapvcz37y21uuKkDu9m2KdfaSRTezdNC6Lc0qFGWGDqTOrF6Xe/QYxE4PPSAslsnu+/00ZYgxzvc
    rTw4d13LIHEJzz5MSnHj8aijAKbpT8hb4KOcwzNa4GcMjU4Q8Pe3oNE0qvgmgi0CGeppOduhZ8RUUxqgr2YjOk1eXU98SFygg
    ETRJyIwnqeToMwUcoZ+lJhDU+isApEKuFqByorUt+mrKXpVjHn1OIhULfVUUfP4gd4QAKOEdmaEUSWRoYfFCAXzjDZS9HYEaY
    lHZLWIR5PWAYIVIQIAXRj6VDk+hQG9mjIciwJASz1x2tB6j4B8dUi8CLvJI8MS7On41XXAIs7Y9eO+yIjbRsVEVoAWaTUq040
    qZIC3QWcAmkdQ78qEPMYnNNOcqgIHah6t+eIHgihxfVUEtOTxkQ+4h4WtQlJEhRTTJLqOFUgs4J+KKBIoJ96Pfgs04jAEkAFe
    9OpxJeIkoz7+CVzzaqHMJlyDGuC/qyppHzAy0FBcTKlI8KKoBPtA+SXg4gGuCx1YAHxYfO4llreC94C2oK+xd3RZhWEEAQYA5
    WLM4B66YA0Wx6dTqgxNFpsIoBcrhVUFM756HEJy7Y/oWBDflBngmFU1qmGkIUEWGI6fRS7YOZbjI9hIGAuFiMvH6NYy9JKEJJ
    rw1XXafL7YQLCdQEauDFfRlgxIG5g77AAMA6sBdK0Jk3UVmhhqkd3gacZC0C0GdEsvGmioFNDzxldjISoKIpnWsV3A0AdVf2v
    fYRSNIDcq06k34Ks+CF8g6Ff3qXNI8jFsYtBNnwJ5g55hfqmAGlkHmmYw0JySPQRYjUyQ8rgem4yuAq4bnqCFHdNPKITEMAaX
    B50DeDlGBSLxogFgJkO3n1GVQsRDW4/tfEVsK7ygTAqrHQC5D6sL2U8jDtPzXYXFeDXVF/FV2DKlhacoCsAGfmxSHXAEkSmKx
    4YeRm63TJDrCMud/ijuqoJFFhGWKdJuQt0QaJ/hF4UooAsTqwYiBPjigF4dkH1zGQeDJ2BrgBjYIwd0nTuNDnguRdcnJch9Ui
    eZnXyCmVApKQJm/OaKvZWA4dEVJQtorYZ1wyYFFaDLiABSnKk0K4BQfEyL04fsAmVjEhD4lCXA81VxxorBpkSoGZ/HuNwy2hs
    A5hA8+FjTfdNH5KgVXbLmXdqqnV5ELY2OofAJelLrVAMNGTrnaobDF3VR4KFMHGuB4S5Pr9MqDV+QHgxbyp60ArWFp0KYupQ8
    hDWgQFgG1bQAfYmnGC8DPGVI5xWwYKwYJETnmAGfxi4mFMshayweJ1gVWqCEZiiOWxb3BPaHTsdYlzAqP2GcC9gWlhLHCd6Ng
    rQS0tKKIRZpcYvDsEf79FwASJeSchHyDWZnTBc4Fg64DlQMWUsuxgS0eMfSSgUrQMs85upqr2qdTftgnnlVyDq3JiogoZVPFg
    WEt9IEeheSBNYcsETJE+NSHF1GnIRAUj52elDM9aoGMWoyXqkGCZkS69KRUARzx4wzQg+uUFJULAIGgw0xQDoQoWLTQoVuCPo
    Cxclq0iqjf4DRAphLdBN54uAFPCvzpDqV/sug1EEQDWYqPlvzZaFPu4m4BY319oKsIVvccixxWxWMEARPn11ZaCykssU4MUeI
    e5Aa5wp++zZVdOQllDl0sBk6ILmDnIXEtPCgCuOHWUkrG2sV8XAZFhT6wdJ/RpmD6SR0SmFtKbYrRPAaslkzakh7SVQqBVrc0
    KBrnh6Tbn3XhSIFFRFXVWrUZIMqSWCNyOF1UhQnd1mwJaObcj2MadMe6L2YBsLJNbFVxWPCfQctgLZcDIfSqWT9kEbvcxmGQg
    9AifuK8ZRlMYpQ84m4xK2H22C/MDYoB+gnxnlE8QApU38lK0Y2B4GRKQkuqIddzMQwegCAWzYj5xD80Smjk5J4eMhTJCDQJNB
    ZkSChBhEaVETQ0Fvswkwmt/qhxNspUssOcd5Fssviz4VU8bxA7+IJJMXhIB2YJeXWKsLj2Oy0VGZslxawremDL/khx62gmXy+
    CwrBJRaHAJGzAk/8ZIT2jH1RHH8k56lCPzUxERkOATXn0t6EHAC/lz1NSR0LLYFjiQFSiIukwljBmi+eSeE1La5784XIFi+lf
    LDeRDk7MIz60h4hhXUswRTyA3AuVq9EbzvPdwvCO3TlMRoLrGM+FtlFnywtI3pWXVmrgnhZgWJjVQUdYPesLwzCg3QOSJfUMA
    vSXhWWY9JmB1GlvK0w5KdEjyMUfApxDFnP+BaAH/Td68Z+NcEY6JwnkdKqgcjzfHIqHWEke86xTbwIWEesA6gQAkEJDfAkRXt
    0rmhvh6whFpgOtDKdFSpgfCHjCXMO7BvIDa4JbPfv6LXBAIv+vkiOCz4ROs8zPGaDC+FBCiC+AFzD5AMF1FX+SiRhIjPiOQb5
    PIEM8oT+twunw/pIk5q4hinfSlHSKxJMUdIDqQlFQypxtFYjiEWccAdjzW8+FwkvWgi0Tfd8r+gCEfOGI9Deu2HBVDvp1DdaD
    HGHqjr0uui2dXg+7st5TXcOzApsIdF9wEoDEj1Ba2irs7esHY8etZKcS5ntuz7+9Avnc7AE9TId9a7YA2WRzEpMik/lLRQ8id
    lVwWbrXpGl4Hdwg4e/3cQeC4B3wOm9whf5lpYvQ3HqaI8mS65nD3C4XxVnlilLZAJ2DT18KVIilrUXIjah+BN7Rdp4mk4bum+
    DmrNB50v5gi4z7iIinWAiIByeA2iJAsQPT53EtZsYwkKZlW/s8ZO3hQb+94R0nqK31a3xBAhKTmJfYdDvZ5Qepb3QT09B1yD9
    2sT/T+lUTUQbesQzod4dRXQIKEZ/ikOk5RuK7Jx4YEUOG5Nz2mHD5cUaiyQyVSgh/nIfo9E4PmwwpJk/IJwbFiXKaqd1x9Iez
    alqldoMzJPrkcNFwxjXfsMIYDHBXHpsoW0wZ4xWb4NSB0rkshEEYz/3iIbtKsQYyyCVSyyndOKX0d7339MtxPnnenyrxcBjqk
    bOz/Uw1gjyRIewPyHXUsoQgLhQ3PxmEz2D34v64RriIzlNydFzg7eTiDo5EyW6TAWb5IyBn4DIYx6UFLEcyVZxPDhy4pXfJlp
    ADpaMscd9lBveJ9a5T39g/PXe3W0f5eTo0dkuWiDv/B3ohgeFfiT+YuC3kLFBMdBm0vffqUSqkD7F1wIEBQGfAAWBD2DZlLjj
    ZE16SZzvfBMrLLSqCXpx8Up6DXM9ZZEYXAwe5pG/5QjJyHlqpyyDJ87XLlgKwt3cw7Y2RrZCQvlJDZNhtAieV6l4w5xNcpoRF
    RL6p4nTjBJX10bn09Clo0R7NeEgBzoE+kUOjvOU6NqTE6HaNyTW/G5BdHRca+9z0ZiB0Y5f3COYDXvdr2utnRJLK6Z1SbCZHC
    +bnYKBf2CQ7ndgHzTfjj672otC4XKymS8KHpYzCtMlnl4e3DgdVXxWUSA6DEtM4BhmAGw3wSeenMcZRs344fvijKJTCJxFOyD
    MExBtUAMqERsAq/eNTEkowQhvKjkp3lgU7SboS2LRaQFjmBuEO+JewYGkXfbs1XI9Lf9JYbe3zG2G5sFM+whpaoxl72rnUW+x
    BhyLLnzYM3FNjnC7d4gUFUeco+SE5RuBcTyGVR7l0gB0sYu1lfOWll6xDpyddAa7BCaxnPwb8Wh72+i+dhjBG9S8f58v53qYA
    8BxUuDJabqh2ZwaiUegk/Kf/+qUOIR8KYXxEwMfMNKVI9zK01ntfUlw4fBYI+dAyqU8kcEmw0TgYZicNWOVAFOKwC7QaDusJQ
    aDGVJUjoR7Rfu0tPwdUjlRIJtYogO24kFGV8dEJ4msXq7V+ZOTkx3vKaTkCDnHNZ+LjqbGIZKsCgSkTOYxVa5nQMIOxAaO5Sw
    TGgpghZZgQtdaItgemwfNFKqBnn6GPxvKjVyPHE2bbjkflgNhpyy9dViGb2n5NHQcCZPYAzu132+TRcQ7IAe3i8aXs0GnTWhp
    s8gc5kjkejrE5fqlSLk2EU8V0hUIg3TLeEanQ9jRkeAII9ZBqxbrj+jbjxkbl3McayRIz23C/NBfu/ZVt8qRKnMm/JBGOxAjA
    zmMnGusk6Nvp+UP5MEeBof9AZ97PS3ybUtBlRk3FHOTSoy0BU+WYNFWZY4mruLfEjEztjI3VT832pgeWnl5ujF/YPWXMyvL1+
    sHZvB5NvmyPnZqZfHBytzQytzP2fCDbGKuMX29cXKkOb2QXZ7MJmZWFm/XLx3Pxq/Xzz9bPf8EzVYWFlYW7manDzRHf86ez66
    8OLAy91P96u3GpaPZ89srLy81D5xpPF6sP7pev3Sk8fJU45eL9SND+L05cxjd8r3LhzikX641ztyrjz1fvXNu9fpTPjg0XB9H
    y5nV89OrNy40Juey4ccrc0ebL1/WT15qPLmx8nIZjzRfYlTPskv3GgvLK3OLaNl8erh+7mLz7sjqjVPZ5JXs1vH643vZyDG+f
    fFS/cyz5vmJbGQ4m56vn7jXPH4ymzuYXVqoPxvDOjTuL2Be2cSpbO7QyuLQyvxYdvtlNnG0ceZq/cliNrnUODLKb2fPZncO1q
    9cqh85Wsez5x6unl+sXxrCL/Vz89mLiezY+ZWFB/WJkytLkxz2won65JPs1k/N5YtYNCxIY/Fq4+rt1QOn63Nz9bGJbH45OzW
    eDT9bWTyH/pvX72XTR7Lhe40Hsh0vfspOXWguTzavH2scnM9GFxtHxuqXDzXOPM2mTq7MnWucPdacXmpOX8+GjzefzNfPXmwe
    fJSNX8uGb3PY4/fQLXY2OzuCncqO/5RN32iceIhFW5kbrz99jrmsvDybPX/UWJxo4Nl7Q82ZO43FkcatpezYQuPiYvbybP3SA
    +zd6qWh5p0DK4vP69de1M/M1I8dANmsXhxePb1UP3Ebv2fTz7LFBQymDgKYOLp6Ybg5s1h/fDZbOrry8njj5TReUX96YnXoSP
    3ofaxG/drz7OXp7MjxbGykMbtYP/Ej5phNXluZA13dql84jVXNTp5Yvfp4ZR4zPd489HJ1CMs4imagtMbdUyASUCY+x0uzW6P
    ZyTEQT3brLkaC8WPpGtfONO4/W5k7jfZY0tVD91avzzcmp/H21dFjzeUL9Qsz2Yuh7O7R+qHhbOQpVrV5+BRoknR1+kDjyLFs
    bjobv49PsmPnSF0LJ9n/1B38f2X+WnbpYXZ5qP50onl3rD5+Fg1A+Y17R7FQ9dmD9aEToCLwSzZ0MRu/inGCSvEVBoBZo3Fze
    ia7egJECMrBQnFPX87Wj042D1zIbj6sXzixsrjI3TlwO1t4Xj/7sH58urF0gtw6+7L58s7K4tHG4vGVlyOYBVfs6QHQKlgSXA
    Zu5VxmLtcvLDVuLZCQFiaz42exEWBbUBTWvH7lJMc/uVQ/PwxSxMiz4eeYFzoBlWZj58E12Mds7hwoLZsZaVw7ALYi3Z64m40
    947PHFrKrCyAPrC1GhfYgqtXR45wjqHfhWHbuUv3BDVAvqBFdYZHJBQuTzaFDzZmzoHaS4tX55vQUBkyCPLOcLVyqj2G7Fxon
    ZrIbh1bvXKzPzWQnj3EZ782CEvDU6hBEzVA2/RP3buIUN/30gfq10Wx0RF53onn3ZjbyGCPEwopMO4r+s4nx5pObWNL62DlIG
    DACZM7K4k1wXOPuDBYkuw1uXcA6c6ZnhrIz09kohvGwcWcREiZbOAOZg2VBe1AjhtR4ca65BMFyFdwHudecuUEqxdZfAv8+pn
    C4cjhbGgPv13+cqp9ZaiwebiyOYo6NqXONySfgGpBENj5Zv3wbdFW/eHD13GkKz7GHjUNTq+fvoZPVM9OgXqzz6uUr2dxc8+h
    sc2aqcXEpW7iTzR2rX5okPdx+XJ8501w61OAYRpp3D3NlyInTJPjz9+qHQZ8HGo+Wspf36+chximdVn+5QGlzD4JrfvXyDezj
    6uip7NZhyHyIl9WLJ0GKkHirp5+B3cgpmNTYyMrCL40j98kaixPNk7frzyFhrnGE08+ws427x0FyIoefY1JkuvHr1CanxpvTD
    yFJqH0Wjzaf3FsdnWiceU5SfDmbnT6evThLFTB+Gy0xZu7F8i+rQ1ezH+9hVbn1D3+CJMdEGmceN2dIpfVr17EjzZnb2YmRbO
    JRNvEzuKC5fAZiv/lkamX+YXbyeOPuQxEmI6AoMuDME/IUxPLCmWzqvsjP09Qv945mCxOgk+bYg/qlQ9np6+yNm/gsmz60sny
    5Pn6rOQSZc2ZlcTy7db/x8/ls4iZEa33oQGP8Gf99ZD4b+6U5fQuvy5aHV68vQuZDI2QPJ/jSsVPZEKmU3/78I/Rvdmy4fvTB
    6sGbkA94LyUh5OfIMMXRSUxtnpwO/r07gpmuXrwBxqTeXB7FUBtnZqFTSKiQnKMLss7H8VV96iakOiZYv3C1fnZ4ZeEo6If69
    9oo5kj5P369uXQanIg3gvyw443rQ9AXFGULI2SZxYXGFOj5NLQbFdDJQ5C3JCool7Efs5l5vLd5BPw+Q408coz8C1lx6Wrjp8
    N89pejjakjjYW7EObZFYimidWfj2XTV8jjY88wfQwVUAHjaUwtCb8fzU5czcYm6+evUU1AAwISDB0lrgB3j43Wj41mx8+TC85
    PrU6OZJM3RCcKc0GtT16rT91qDN8Fldafz2aXHmOOJDno0+dXhM6vgsgxHuiR5jLm9QIKgsxOeXganCt6hLqGamXmMFRb8+6R
    bOk8OeX4Caqzhals+hiIp374Kr+aPtK8OYwG4NDVg9PUERCDC3dWb14lCrr4snH4WfPlA6KU8dvsbfohkQxk+3W89xgYn7v28
    BTFyGlIsEvN28vgRGzi6vCP2cJ5PA59t7J4of5gCRIA6p5SC7s8fYwClsjkHDQdNOnqjZFs5gVRFuZ7bBEUArnB/y9OZMNzXN
    XJa9n842wCXHAYXJnduAI+rV8+CXREsrxxZWX+KN7VPEBNWj87hh0nbc8/ATCDsiPFgiDBtjNHgDegtlaWp+tn5rOJgytzJ+p
    HTmfHH4JDIY0p5W48bN49SHAydYFg7NFS4/aV5onnslD3MdnG4t3G4tTKy2vAIZT/0In3rgMpQZQRb0AG3rq6OjncvHiifhrq
    7NLqzRPAGOTHp8+h5UmfL08D1TSuThGyXr6Ola8/WmycO99cPkmEs3AXs4C6h8TDsjTHgGDHQJnEn5NXgRDIVmcnVoGgSNuH8
    Qqix4eHKLQfjxIxAsGO32s+uQoFkY2AT9HVMsAnqLd+7iXhzcT55vQ9LA55Fgh54vjqnTGirBcLFL9Dd5vHDmVgeSDkoxdXXp
    xaPf8I6wkipJa5dLx5d4iCfeIgHgGzQEiSB7G/y5ebM8BRSyvzd8Dg3IinR6EZG3eJ3MDgXBwosumfmgevN25T79TPTQGJAV1
    QB2GFx6+Ad7CbwK6ro6Oc18nbUF5EI9i7yWmy29gsNG/91GGii0tHqH9vjTZvviSqgSC9tIClg9bLps6DvLHRkJ8U8iNg2FNE
    TZdvkCOAHikPr0CwsLeHT0BgoF7hpnFgmObDG/h//eI0uIlSZQ5kM77y4hqlwdgv9alj9clH9aO3RY9MEjYPHycHTfxMjXn+G
    RXx49HmvfHm0hL4C5zCHZy+QRg5dAC9AXjjXTAZaJU8eQLp3Xj2CLiUyB8aavRnsA+YHe+ClgHUAbmuXr7P/VqghqUcBt2+gA
    K6Cf2ejV1bvXiLiz821xw/iIUCbsGO1B9cr5+dg8rOHp6iJh37ETgNmrF+REYFfjx5gghw+J689ylky8rLx1A6jakzUA1EGsu
    XV3+6BKGHF9VvDoHGsBfYO+gCTLP+6EduNGT13FzjzE/N0cccz8kRYkIgPehKQJpbgMTP8NLmlePZ/FzjzgQxP1DWyxtUZKMj
    wLqUJ4CssHHGHtaHLtcPgQhPUI8cnwAXQBNhasTPt1+CO2jCHDsCUUlShASbh7l0iQT24hfQDLabxssRSI/DIEVsd/3yMmgVI
    A0iC4xGc+nCacyOkG8cnDJJEQ2b4vgoFpxqeuEO9+vIffLU2ScAohje6tA1Sk7S2PnVq/chT5pP5tgPJoitnJxbPX+J0hja4e
    UsNR2sKshz4Jnpea4wlmtcrKTL1yEPaSoCPU5za0DwAnKeZbPDYBxIzubyFTApFFB2HHbiEh6kafD8bnb7NkQErRhoPRiwl29
    bkxY0DNojzUCZQulA2o9f4eKDqe+MQaNhg8Bfq2cuYqM5hZNjwHsQ6dnQCxAYJzt5qnH5JvQyRBOtsIWfoZ5WL1CdUaIeWa4f
    HYaYXT27LBy3QBQBiwlaGLbJ4hNwGYRzfX4pe34nm3gM7l5ZfAkSgqYAi8GqgvaHrKNRBto4czU7BfPqJrgJ8JU2OOjnBahiv
    nnkEUgO88K+01QEN0FiwMA/DPo5TlE/fJfbB00Kwbh8kmQDobR8vvn4JjHbMwDy0ezSVULlpxfrs1dh2VEBnbhH6AujD+O/PE
    V9euQurTOQ5dA1SBuCFrSZXxZbcqE+MdFcfphNXICVRJZfvEp+PyK8cPF+c2aJEOsYJTZxIyw4vPTEInXQkeOwymkdzD8BFdU
    vH8TYQAMrcy9BvVTfF6HdRuqXfuYcIW9ppMDOvQkJQyx0ZCy7fL658At2AfPNFkYwbOB2Ep7wC+3xS1ebs/L5IdgClwh3D043
    pmcBLWinzx6EEswmzkGWUhvCUJ2cw8qDtYmKx0ZWf7wKuwZ/Nq5PE1dDVi8dpWV0eQhWQ/0KLIWLzRkgommioOnLzSeXIVEJW
    m6ewNzrJ8Rah4U182M2fQ08ArFDuHX/bPOXc41zS/gKhgklA0YCwfvLRWrSw8uNX27XZyZEpExltyxHj+ATap9b9+tPboOtiC
    QnHjYO3ARFAaNiyvSfzP0MfZRNX6A7AiYDkP/kHNX02IXG2duEvnhqCWbdGI2jpWUC6ckpUCDt0LHlbPZo/doExRGMRKw2yGb
    0SePnA6SoA6cFiD4Qd8ppMEX9+k1S7PhjCJNs4k526xz5d/gQ8DxNAAKGC8Bs2eSkaOfrzZ+B0k+s/nSycfcA1orLdfcwVGf9
    2VjzyXw2PAsuy5YvADjRSQUjdO4O9/3kcUy2cfEFfSMvhmBJUY1Ss58XTUFKg8SATUHLUSw4/I7eYK2IiXoVOpqAn2iTPiiiF
    CCBy1ehqrDX4ALKsWH6KLA4VEYvLjTuDmEZAfywJhChqwfG62OPSEUTN+nbWbiVPZwl6li+DPNcLAgw8kG8mrKFmIousmx2li
    QHdXn4Kri1Pj1Oirp+pX7yUvbwaDYLZXqCBtrY8+aTG7SVbj5cvQrYRncQPiGcu/wT5cb8I5hFmB1FHDDV5Dgt6Iun8Mkq+P3
    YMKS6+NCe0RJ8OkkIB0Pg6KQInGMYDGXahZnGpReNy9gLQJQn2T0oiEkiSazP8V/oOnhxoX7oGsgyuzlKYTg82zwyQyfY8DBd
    NA/uYMdXLwInP8NciF6AQCZmYJPiddCS9DzAcoF1SRtkiR6DGy/Qz8qL8wC99fMT9IPBWsSmYOOw0VPocAaUszp0kAL2xFXsN
    UAXxSA6OTcKWgK0biwuQ8o17hEFNRbHsGI0Oo7chx1HH8vJS42jAIGT2PGVudsUeg/nmsuXspGLnPKlI7BkG79gnY/AfmnOXg
    eZYaE48tsvG4uX8WF2/AAN2+VDzeVJTAqGAPQRnU4vLmTjy2yJwT+42Xw6kc3DQjlDZyZwApjr5CnRDg8pqIG7ppeAFSFz+Ja
    nh4FgyTXXnqz+NNG4PETpdOsunYEXZuozZ0khFxcoq4+dI5dNHyPjYLOunoDwpPkD8Qulf+Q05G3jzA36N+4cFA/VPVp/y5cb
    gFiT1xpPrlE+AFsCex+8R1w0uURv5OFJUT3gkZtQWwKZaONTg08fqZ/4sQ7gN3tkdfSYSLlJmG80bO8vrN45B/BMi+Pc4dX7s
    0TXc0fRhuswAuue/AIzfGX+yOqFx9nwEew+/VEvDq4sTGcjAAZHGyfuU8ct3cK+E0M+PAWlDDqhPX5vllp7+Dm6bZxZBGghen
    lMoxXqnlgUQPrQS9A2HXfXH1BHw7K4dLQ+N1y//VP95JXGg1P0El87sLpIVAbKIdnPXm0encB2E53OLTamr69eeFafftq8t5i
    NjDeWF5szpyCEwTjZgZ+IiF68WJk/QaNveoZb9vx24+hQffjoyjwA51zjxAyZ+irE0SLXfPkp0cgVOnuB4riSsJSPLWM6bsow
    Dh0O+Izr82LfkxDJ2A99148SX1eqUTWKv021mzJQhSeeXiQBs6EEbBrWO4iVBM6GYVQpxFriZ8OqjpmEpRi/KiGlxvVTT3lyz
    h6pNESf0o/x5BOJmo+rscZ7jS69WggljtQMRIzlkMBSw3SSUJVVgbnLJTlIY0iukdBCDpvRKN+mftUGPhqJrTUqKKWhcqM41p
    FN7mRIrx+rOPYLjD5Eb2UZueYBOA8yOE5VKfhrEYmMO2WouWGg36upUCvG7bjaBuFK7KiE5hYUQ3BjiYXFeFLG6UlsT1RhwGY
    wwGhAfo75yioZCcA1EqQbSlUAJZG8hudQjGbmKbunmc8dFXnGJpGeRuJhImZO+EqCMzlHrJgbVao2c1sbifbhrsV4gS/hmTy/
    tZGQscR/Go/xN5hj7PqqGnkYBLO1k8jzOVD8XggkqJhRAphrwPodfuTGvvGxm8xDwk6l7AG/6yIpBKsSY2UlvUprBkZFEkAtE
    cqekh5UVOTqYQXQVLfx4Jwro4yclRuJVYsYs2T7ZzQoViqSuEEjUdcGk/UZZcucEQmjNrHa/+ox3lnwOdOUMW5RoL0o0SH2F5
    N9tWAkOo/Rsn6oGNeE8XJllMuwpsh9dd3z90vcJ2P/8JRkeynu/n5SuB9E2EWOmSQfv7q/z8c7Xj2u6v2kKk8NvJrydKQHeHZ
    ZVcwCrmiGkDOUlWlATJcovrru+oGrCnhIIoIlfNVDn3g66lNVzEKCYU1BKEQip42E0cYSLRwWZbWx19xxhvoaSdflTDH3gh8U
    VESOAOGQKw1jmJTEN3rR6yevF3+d+HVUsuQXXj/Ezxyz3n89Lp88+vWA5Mo/xu/Lvw7h84PS5umvR/BzSPLqf5JPZvHbc8mpX
    7SZ9q9/lGeXJQt/ir1Jjy9+HcWnL5itj78X+W9m8ePZJcnqf4zWa9+/PsOxvb7K9/I79CcZ/JJh/+L1gvT3WPp/xN5lbC9eX3
    997/VJ/Pchnr1rZyHPPpJv8STGfUPG/EQ+41tfyHxl1vj2R/kEb/l1WGbNvlljgC2f4J+X6PlH+8a1sTHX/8ffR4hnD6z1wDZ
    D6HH23xUD5vDES1nTK/IP13pE3v5Q2tg6BqwssCSVA5bQM8dp6xcs/XoAvT357dbZ326P/nZr/rfbY/L70G+35uSTs7/dWpJP
    jv5268xvtx7+dutn+fc9+XZCGuD/y7/dmpKnRvkgP0GbW/LUvPx7RB6clzYz/IX/XmIbNr6N3/sUeVpaXuL/+dTwb7ce/Hbrj
    vx+/rdbY/LVkvw+IZ1Myxvv/Xbr6VqfHNXt3/+Nd12QkVz6vZ8heZ30w9+fSst78sm93/tE+yMyi+nfV2BaWmIMj+STOeltWp
    66I5+clqdG5MMH0mBKPnkg3f7EB/nVPWlzXtZ2SHobejP/9vDbI29u899vR988fHP3zY03029m38y/mcE/d3//HD9Ppa7Dwtv
    xN7NSyWGE9RnQnjUYRtB+9s0ztDv89tDbUfx9F5+OvR1+e1DqPMxLJYe78jlbsGLDz+j5IKs7oN+pN/fRE9779gA+e47e7uHt
    s9LyNkeF34bR4i5aznC0UltiXCpJzL95hm/H3x7A71NvfpG3cmyj6Pcm3/jmwdpMRvH7Y9aiwHhG3szImB7Lu2YxO86UVSUes
    pYEWt6U2hTD6NGO+GeZCUaAp1ij4imeeoKfKXwyJtUqWA3jroyWT/A9s5zX789ihDfR9xjmeRdP31z7fIRvk7FwJmP45yDHi5
    Yjb6a52vLbz9LnMN549811md24tGHrp9wbWZ/ZtwdZHYOrxDWWfZmRcdyU9lhn7N3PXF08MYLPHqCPYRnDz9yTNw/w232s0gh
    ajuOtw2jPWSy8eYRPRjCHx9xxGc9hqdLBFbajO4j1uSfzvssVRk83hUZYteM690TGMby2d4dY0QPfkuZ+xjcc1b1/r/pjWZlD
    8q55oYoZjA/jkrdyHealt1Hpf5QzB93MvnnOMUhsmOQGMUaSsadpkJQZ5BoUbQS2wDoGPKVViUaUMCWPlTWkuoNEqhWVKftR2
    GVj7CXkJK4B7khOr0TTM12futtmApg4DUPJfo74OKsRMJJXYpOZXcM8zkEdSNFF4DM30GkopRdCzaz2fqIbFda8GtSqTcs3Et
    A3oNwa+mS0ea+dEcvRoFPPl9yIWEt2cizzxRsKLD9R9qVohM0DMGvhynwLw111zHhXRsiw+ECZkdGBjbvPK09yHqWyh/YGtUQ
    7C7Z0mVTtpS7L3PAvgBmGfDKdzVWhTZ7wTCrTFdDM3CK3zLSFNJY6FswyYcGRAsBFTaKUpXSnYr6nFG6LmZiA7yqKae7ahiUa
    WQICgpBYAYMoMc4PIEcnNZuPIWvNVDKJyfcSQJ8S0xQYaWsYlsl4uEBydwnWQkJ3hijXCOIxXKaMM8xJgr6YUleV1ISAsUw2l
    2RjHzrDI3i7bCfrrqFv+6Xex+BZs5ZbUWC8pqt3caamvMPSWVKOGXK1R8KlHWBEW/aBofGJGpDoOxoImLukG5V0L0iBle6IZ+
    Oap11GNjFZlckjvuH+se4HlpjFE/yEdTYZvFiShLqA9MGUAS0tjQ10kvoYrFEh+a4s3gh4bbMcjE3KMDY+m0W7uGYkMOwAY4B
    9yQ4haXh+ici86rtcnm225kqFxgZXXjHoN7A7bdNkrEWkAhAuKdJmT7TbsHgjcZ0AjVrixhgpy/mlJnEK2mZ2mL9Zak2ZbBDU
    NJPOPOZIMGCNAf7CYwN+BEiJhcTnHKUkHQjNd7WnQc+6Fga9sqhAIHVJJJ7PDxnBx9BNpvKVtLJTYQE0gHqJwNdeVdIMwtS+f
    6edu6skrfvvltUYSZsyKQds5ILKwSPa28byIUzJoH0D0ihxqxwb52aDehnHR2rYljLrLCnpROYuqS2GQ8Ffe+wWu0r41ybIMM
    9Akl2I6l3N/AFusKy1IdXBMuneJG/6xAoBp9sJ9aCzw+6DTW3yekkhKvjCyh7KEF9KOJBJwNfkhx3MbitJPaICCzIyZNMUtOS
    SSCy49nbqNDFM6QlJ8xK/H9s6OywmkwzqteT+oGbs/EBSnHSvZV/IlyrJc1/ZL/gJE37faWvbYYWH1MBhQvUA9yFKJQp0Le9l
    LTlmgxVa1ZQ2oBY53Z2zIfcOA86lMIdQyKdiS3JPQAXMIgKb1Wxii2nbxJqCLZKIEFd2WGHF4rShzQoigVWZWlNigRSGSVrBK
    TH82vuY1B9CCjMLyGNobVzp8WG5pJ4eLGtLUswE8XrtjrkqYaD+NqsDbE6RLfAEbgh9Pi/SRteY54KV38HswFJUZskRVfvYcj
    gzhkC0G60IEpICKWrWpS6RGQdIu4aBiZJ7BcKnAApq+ZYWJgvgtQ6IzAPtgAO2QzJgc3dQ6kJJYokdlpv00Up/Gkst6pwjGdg
    2jcPQvvWlKDOzFT6zIr2cSsKjHzpsBUmg/NjswAoynZkZhiooxDY825c8q0Bal7ayDm93zmZPOGtJSoz0x5qBmSt+yiyQfsx2
    W4VlSNUuT3Lj/2Xn/rnV2kxLcZJIIju7c1Smgd7HqGlSQSKZBwVGzg5oqfil4zabfmfT6QxrMuBxlvfF3HeDGYrRPio3BiZDV
    9FoFmEFlbXPr6SVshVykCu+F9QgnytShRRUAgWPcbLst8R7G6lthalgBNrmVqes9hoqk9RAnnir02txSMwMxVRTlkSV2lcWVm
    DNRDdSJlPAoWe8Twl55+0SbLOoZJdHjewYXSIXfxVBlCeOTecwe5TrW9HM3IC06gxK+SKGu24d1A7Lfm8TLbmWpWG+sdl6LLm
    ESStXBAQrKGPfpeiG9rY6EsqbWDBUoNY1SQE7UfQTxkVjgL1WwLMyKdYMEhgdmkok8oV18vAf3zgsaM65x0aLpwRbwfrU3TlR
    dSBoVhYaYMw/UxG4D1K5tKK5ovvw/orNB461TQzaqsWt5mGRHNYFYni2Ag+LSh5UNS65sy1lHqvNMjM7LPiyWWVGisBBj7Nom
    pHUEAxCKmCsa6mypjU0eiypkS7rjVcTwW4MJI4lWc0Gbds0ThYCY4qcs349GQ8ChHOHMg0khxXCHDLEqnkLsLQCWYIpmVYt4o
    LJaqY1L0k+knHsruUhQZOIa8f6wjwb1O/YHJxYiq4xTp+1ivQuCfKHMBZtv5ZkucNCP198ZkEIWU7okMo2fmNTIpjSQTpjQHS
    uh0I8ICyUzqgI8F0bIGf/WhqZ9v6asjwy9VFVKsRBC1fM3jJUnHEq0X6iG26jL2VZmNaoLTNDwFPcbRWK2lhm+S3tfRnUKgAa
    31ghaRNZjRSnwsQAqULfXcuitOmMjM8HUhQfbiLCQ3bE5sdKkbGgVrKJsFIiC/Rni9RQ8bEbqxQt5edZlaLsV1mwx2dqrYguy
    c4hTGFBIi9NZKuYHcpsRAsZE/m+JLwWMBmBOYTbLZ4H+uV7f3CkMM8eCyehIimtWLIeJLYbhAFBb9MTjWTSaW8XeYcap0htz1
    RcAB7eVwBp06tlLm12lXZbKM08sqjIIiYsHySli6iuQ+ZcslzWho7WdpaS7pPq2hQX1ozoTXS1rEMmEOjQiQpiVEh5pnUtn0v
    mmcMVw1BzjhS9sSnLBnplN4i8peVzsJFjc7OMxPJjH6zUK/oCyVgkA0Ojw1TKGzLrAhaKrBILJrk+jBGAdGP6LC19rFkswNnO
    IjlpxZYm6kkGfUFmERMzaqzuzvJzCrg81o5No2ANGdpj5ZhORDIt2VFysgRcQpSyavG6FmeHNe5A6+BJlvQ3GCDf7igjb/fBP
    pJa2EW26Oli5XsACUEO61psvp6xY9F2QbYSzKIX1yLjTTb9QMqLtTjG7ljB1syyCafOoJa0vI4OW68N9A4iBAylBJPKHxCePl
    W4U/B5rUKN11s4LGrqcANZHB1/vRsrqIROXtfAytusvBaWNlji3Yl/AVUxeY/06TM1hKWA+IZtVpT8DbAM9ucAiJFfphQyxmU
    JQhWIanW6/26Fh1QJg4h1RJ3aZBWvS0liLxORsJjONsjf2BcdV9Y7fzdXEygSj+kuA5wR05Y7C4qCxbAwN0cGCUijGCIDa0od
    7ijalLQ+gUfZ2V+ZkgjIIZkmkvBGNWHTNGwaiLNbcl0cohmyb61KcpPShy5txYovdRFDxy9aoymxCWEeCQivbbdSoGCzbdrEb
    tnKipxi9zMtOy/5U7kejAxvTWCDBFqsPdK85PzgOyxy6ie75bIBj3lP5AvqAWWkPl6uB7PkOts0WQBI3hjQw2sxnILcMoJNVY
    5IrQoN1LjWLplT+aKFAB72BOqMxWmg2VyL2aXkgdgytL78RLR9mIpI+qvUUHdEVJqE0A9/FqX4JGUBuJJlvVh70woUZ7Accbg
    k0pRFNKQwhQHIx3hl6VgyU/LdbUK36ZWaBQ7L+HM3owq3k0gJREX9hxfZpMWuQo2b6XxhIeoe6+ywKa8sp0n2YOISdHkv2AP9
    SU23oLaHmgkSMnJ4gkXLJqWVTKPU2CoJzBmmdjKSlWx4hQqWifWEaGUpyWuixQ6hY5MIN7TZRCwxI3I9tHoSv9prTWdb6cDsT
    eN+DEIKp+o4LyU0NwguaGkpWBqU0nW8hoN5mmuVH7q/Yl2M2JNs8qBW5T0ovpjF/u8pRC2S6rT1j2kgDCSHZkYuUhAJBlPAlf
    LwAh20m675Q4wUU8XEdlonl13Wlq2OVAKUum88xkohHCpiUGGr6J7C+PZJdTtJb13XYqsc5P+yrxI4A3KvjdhqrADHOgLcJN6
    pgDYa+Litrac1D46NN9iMPcPLVfAA60Dhf2JW79d/YxooCEXSREHjsduda99jfUges8vpSRLMl1gguEdKaTi8tcbxw7+ycltZ
    3kyAaW21LslG71GOwGDe2xCulytF4o3OLuvhKcK2Iyojw0TxJynNodo2P7Y1DmQqIBtaLp9LmZXA5vqZPWuOpY1AVZ7j2LzBN
    fcPS9RKJn0RLN1iS2CYj+UmHWebtXP4bEWJnrOVMQAQayxxJzpARDPbG0ovIF7fsHYcLHPWyY+YhAYcnMQ7bLWSz1MDZGL+bs
    0rGFQVwabivaO2xnp+KnmiG6V2ZlBrp537jQLLyJ0CUotgw7ZUyiySRUFu1ru18dNQOA6QmDv2iXZ4SY9NBTfb5DC21vKHP7D
    i2E4YlRpCyNpqkgyX62FqN1hGcM9+vQ12X1lVNtjSEd9ZBqqm0nWrqLENNuuxZee2vdv+6fwncSJwhdhFNCoSjF4S1+mFY3XF
    mvON1PtbL2IGskxSOY1f3EDY8Gkiw32Xl9B0OrkeqUPLG25AL19aH6e2QJdX4ojsYe5mWBL040ShlPsVWFGsuZR85Crrl0qg8
    wdDWtWs+RkOkDyFUcMSNwzf8QoQkHDOgUXcnfOYsh1V7RsSzIEUYDNkDYx/joLVKcHNKnBpvLd2iqSwyYIKGIJyfkDUv/gOoV
    63We8ra/PqNFbWhyRH2mCVICAmGlybmKgZI86/Yk0EkVRfKfpkbQzaTXZarEiTFcvTInvq2IIrko+JXj6TkgfOdmrYqEhtKO7
    FkBfHUA2CUvrppOxPJDl5vU2MzDm2lE33oJWm1PJf+aXOFpkfy2FwhtuwURsdN06lfg3rGuR66MdEv1Jw07CYHY1sGgbp74am
    sVnBDtiQLgrBit1OyzopeplEUmTgK2ux77F+4d0Wa+yho4CleaR0xd/8mKS1VpBhh3Vr7bFo1ObCd1YJFVjrQtHl+ZlYq46tY
    2K2hQBMYc3qd+cr69rZZa1ya34Y11I5Nh2UYqEYHShi9bTZQjRfWDwouaAAmb9Xh1AsJ2RLchjeskRwIsWCjEi+Qo36Vup2x/
    3oE/QJgqwBfNIVyO/QubLyjBdGYeNaWnqhKJ31UgV5va26Yfp1jQXDRfcHAVPU0VIq1rZ20jupBx1brceRWtkQprHDBGYppdC
    5NtpO8b1CH0met7EJsA69EToo9lqvym4tSdsDooS11EMyZXpgoZYS+peAZF2pmUB17rBKFLWn2Zn2UyraMkEbxSD2k0Er8ngL
    ETZAOZJinNuaKydJlW8GJ9qqEy1Sdiio2Vo0sWsNBzI6exdcF/ba4wT6O/GigOWck1rR2hYU8gA12tpVJqWjSfeKFemULV1/J
    SVOQqkfYJJtAd0pSpSNeD1oXgn2zfXkBYZ6XiQ4q2gXhPVX0Yb+EJWUd1qNt8O6jm3NG9NqlQ2GsAbTeCMcUYIVXfTJfWoNza
    JfTDQvwXF4GVteSnfm5VqC0CvacvKw1VhKCDwVSL52CfLb7XY+x8vzYmRD+llkXLUFQJQjda1Zfw1LwAr2FALi/3IKYrbEvNn
    MofVMNe+wVoLD4BbB+rFUJVkrcsQKColop0TqAQdR6hVjulrQ2efirNjEwy76e2BBQultt+5hov5IHmCI0YDlW6kQD/AsNew8
    XrMCkWFrOjhSaER7n1m/9ydSEMqRG59qvDgIf9XE2wRpKgUzJGqIEIOV6HM9RkZQ4lU/oMHtkpXdyqp12OzY1l76GMqYZ2fYA
    AeaJmXtNc/WIzAsDuyAWKxLj2U2ucXUjVgJJXaOpUgpAIBHobm8yE1lIcusrS/F9FmZpphaD5Rji1707Ga5N1Ojthc41YfN9L
    62xx4crrgUIh7y2DNFR5wBrk4FXDifW3va5vO3aBoTYVLQ4luDLNjB+mj+PhIRtX3Fd//YIf8j4cX0S3mApo4tNOaItgViAbH
    ICgKbOt1SX5jnQKzaYfZYUMp7DIgjE3lvMRXn9IDcuVSytZigA8TGZ2wULFmp4q3X6rwY8piml040irjRXPIHq3DY0mdtvCWG
    /gIVkllsZj2W0iEaa81Da25oFadRa6cUDraMR61tpQ1PU6mOYp91+WzJI8Pyq/ixnlnwukNht0PQtrHVp5ztqRiaazWM9lqrA
    Owr9F3VrFpRijxWpdurSqTPbcJUW6m2IFi+kgotoHSGYMkNlBBItvTBu5+xIFAQDmqHLLHDnsf9NYVUNxVrr9C1Ql0lJxMOJL
    7hWCDiaMBJ1fD1G4X4YE1FbB20iIZkOVrWJ6G1QatwDSZAVRCG2vJWtmqY2c4aD7HU/+EBOPkeotnSIC/PdFh+PobejndbN1M
    fT69hfYouz+eteUxoErLcjcOrU2xpItbDAd+H8p/ExiTmHDm+iR3WCKYExevCSG4oE6qDDKlVQIFiEPB2Cx132LIQhAdAvxaP
    59r/0+l65587xEhzuiNxjji0XcFHcrWb51j0S7PF/Fu9GMcaFxCGeGBQDgddY6uf8dpKlk7hjZAUgJg/l27NRyrSzXFsqbgfx
    Gu3wRYSLLPYWiHaN2hVnZ2Yx1pt+8FjjhfBNImtczzviIIeHMznsJ8FMYhLUvE92sp1w1rnHXGcWXeR+f77737oHPQFAkRFUw
    vt8vCc1EhNUk0PJ4mdVVf2xioVQeoYW8DOGipdYKdeQKVt1gtuzdy8tQaTHdYaFILMOX/3A4CPiklhxRZ451iK3Sr4Uls3L1c
    CbLDFEB1bd9BInZioGLImmgp22JNs1rILlNxVgAWR2wCCWpt18bTZIotd7YHf09KSd8S9CMYjFUP80tG/a80nLnW+nAFfia1W
    ZbXKAKRHz16cBoKeY3HGuZYbCQpYry8NKAjLZPqo31ZP3NhtiWjDWuE08bMCAUuRd9ZqxvJ9LpVLnP/iPateba0aFIv3szPxp
    Xvb5YpXI9X7u9oJ6ohtbD1HAnhI4bJfIdXQjChgG8WOy7POP0uDw97ktY6cVhKZvL3n0RPnQ5XF0pKapa+tvhB07TN70qscYY
    VPdFwQHo39flCyrYeYXyv3KMX/1o6+q7wEEuwknrTYsfLToY8TJh3QBe94pFMUTBJbTCRn447DU48K7y71Y5G00HF+8l8W+QM
    LR6Ef2XqNzlp5wDU9YUsS0jVKb2iulRepbRBnQMDDbUoUW1VtbdAb99ioASwj7xh06BPvzjlWn/mhOAO67DGGrWzzt56u/90O
    kUgXEE+kLVg3LMgaA96KEpY7VpR5p9tZj7/pDpVra+MEK2FrwWzdFqsCkBylMObuWncRq4txtnIK2GYrBm4EKVFvsPoyvqPKB
    KvtCLhyIUup0RlXEn1rnbdSFZ9iZu0s0mo8TJ21uHdYC9MWrzI91myVlaDXD9izENiSeo5EVmAqYhXkq2ZrzvmLY2+OSUBOPO
    piyXZsqq23aKTIPkbGO0ToxvBIN4QVghLQeXeOisieSTHOY7sqwJ4J7fnYmpgRdwPPYBM5gttmBL7aSnSG3OfHZF36CWl2g34
    +YcXhKNy85rl0XaILWyTUYTl+Hp1amNYqt+htqFKaoXvrkwWb/TUNaljGPzk5IlwecNLtCrRGpxPoUSxhuvocue10/Z/WQx1a
    ROzYGmpUNhyOrbNneLkyd4Vn3mqtEKjTZUmKYEsOIdlyA0u2gRFILjAxwLS8EjrvyLmaXGAiJTrxe63d8m+hJMgHioEb/qm98
    0IuGwH0s/Bgc3Wfs6W6r09uM8nLrUiOshVU8zBUiFgsPbd1i0+uk/RJ1SQFY/O2T0dUpNNta7dupK3Dm+lsYUBbYIpOMgYg8T
    pMRxlbs9STAoKxrc3f4lAJR1JllYi6aOmF+jGkx9eh24NLTnVlzw8HLawYLIsXlmdd4OJC3MP7Pq0vx7EnxN2ipIAgUtr22jf
    iP1OyRc42r+LH4u7dp71OW/3W+dzGKO0hXW90KEliPyKW4hFiLAoW/M7Sid05ufaEhaDsYTDRr5KZiJAV9CvCWG49cLBYFSJ/
    3ovlsKYZeDJNDOSSKdbQbVGKCAK/QPZEYqTZQmlGiC+kwwzsXyFs4sGKLyDR88WpvZuHszBexTO3wRbPpD+yim5snIdDYqBSo
    DXBI1eeOxt3LcyAxax+LybXRkMNWwUrGbq5ZmtPmnarRnfEEQasHFvvkVcwcGKJmIMiILAPWjRd63eMHYOME4AVWFOPl1VBo+
    2W/+UsT+fkigflMMkjqhkiKYd3xfASjdAeBscVK8HSglzBEGuJZSMUA0VamNYjwY+YmJYbdr+wRwZ+aMsBR7IYf2dJ1vXmC3u
    sKkUmVSjHCbQDRDtCZhG02XK9NSIruR5XNJ6ty/kdYT8rAUoNVfCgRIbkre/fkUphG+TeplxPyhr6uR6nlw5lOi0GRAVA+0Jb
    QX9i/wh9WfAYwgaTtqdyjmOPI+gyAVltyO388vMdkQ04FD5nXISYOc5/2bANW1OQh8gSTxRR/Q5aCN1pYVrirQlqkSFhBQYVf
    R7M6iEeFs+XpZ71okWhwaW+r7edIVywb6PElgqTWmHWLt5cEl9MdYcNIcmv1aG2ZV8lWKHMA1ieOzLokLLOlV5Et/GkwrEhXI
    wdMDQVylLMkPFZnABkg42F6y5YPx8NKWjM7m6HbpUuS64tUm6UZ1lyVCvMuFZ8NC8YPQqp2KE+89aHyDMsWjag32IU2wKxjq1
    ViGnLPWORlZG26F+eclBITCK0dlhvvbGVgDlozIZECo4mysKOWnHPvSMJk058zMie/2FhWZSRtAv4JyUMGXoiMM0eW31TsPAA
    OJhXPXxqwbotAb5ROXKGw8exFF9I/T9HbgDRMW99Z9lsdq1+r4s7GInffIMtYmxRhYgazLXNMuAeqXspSyuwIuZWWSvpG1v/e
    qPEWUjYqR95G+lzt+e31q8mgYNyuL4W48nalQSutW02ECWRc8Nav8UaooLXtZCbsCuKoVdRGKYsWhrssAGO4uxnQpFQaxQLkK
    DXBouK5hvxoRvLfWW2RF6bjWs2X7o8KuNlDTTSLAc49HzhgZ3W66Dp1CNiMWWeq/GetoAnd4F1M+HPbj+RmBUGWA1QTtjQUlE
    oa8UNjSW6Fmuk5X2ajtCD1vSyevMb5fDSMYChfpa8t6FQG4moMbFvLIHKZWG8f4QrsNFG20HBysIUhPEqcocc1KfUgXfsGZ9D
    PhM1YYiNbQ1lx9KZETQR12yRdOPYQ6I9Nn4JQoZbZ2PIvaLcesiDdXKHHMP7IaP0AFSooOkxsy5xXmfExWKJX1g+9mBaYoKCQ
    G7Yc5Qt3unYit95dk0N9pkSXMEj4TT5BAsIKhDrulDj8Zq1enga5vlSOLogYUw1MX0CZfWYkVqXiSGPlUge9L6GsS6m5ve60k
    731718ptcek9mymEbOaEGOsgJ5Sgu8z560b+R1kDyHTaVepLBTEFjw1G7lyjff2Lqsn6gYIs9rlzuXrIwTTEnvKmO9GHDBMvN
    Ah/01bJ76mhlwnpYDzXUt2xJW/lVyhJ3ae7VqG3lPdEBjC3/letaqYMpti44CXKc3HNTDhZUK9ti8tYBtEQIOq6I637XY+CPe
    B81JbxRmpPaid5SW2t95/7TmjrtKaOIT1lqmJJKghbW6kt9ZomUcHX0eRYlN5YLwjnLMDyOr2LczIGmQsThJzBxHXrKFlRVdy
    gFU6Ljm2kfx14aRLl3UTgTWrEvrmzYbJVa2nj2Ww8RbaH3KHYyaBwi8jo3+3URsGWpt2ktyimF8G1xWtCphe1oEuIpsec4ucb
    5DXsfc/2iHPTIQK8cPbQ3QteBxUZ8A3rBuBwD2bXV85wdeosUTNocdyY06KuDRWcjwX8rB9iTltY8sZsuD8F6wXkXif3kM2OZ
    0Kacc2+sWoKydL77c69hy+htlTxSEX+zYmvl00ydWw4opua7FKvt82XKHjJCnYD6PZ3JkzlxPVAB+YvlinmhHOaqHoi+KHWu0
    i8FaMMSkmrsfiiVP2QzSVywin+i/8jYvHf8Pfe/vOIRTWG2GIEj4L+W0Y2yUHkZKoPEXG4xq8yXW1LVT8OXuSlGw3TkshswoE
    bv6K0m32GgrQDu2gLZj41EG5R5YUCf9JsqpWp9VZAV8m93ATht6ZIupO7Yqso2v0INVq4vlgiZHyp5j0sqReIoNvii3NcdCpz
    371uH+GoOTxDFBeUXy+c4eC3GUqlrDMMhX9OyIV50++xa5aI06UHzp/zvt6NiyQ4nP0FES6fCHP9hoVeFMSNKu3h1ffbpn71c
    2gMVWW2+XoPNo3/bap96G3D5JADUbB+0xJ8ZihCiLDrjMluV3LEA1ztd06MrZYVlJOXLskWxxocby2jxQswcd1rD12m0hfns9
    VzgQBcQoeANP+ZRl2II9vv/UHsOLx7gU8cAeA7Vs5Ng4si7rs1CdLAvd1W7LoBuJr1KJRQ42BSDWjq0BLvzdXlaO2OxVG137C
    fVRNz1kXGfmRQMJ/E1JyF/3P//VuaGY2trkpr1H3OF0vUGjfmrXRfih6x17AGQcGxKyXft9ElkFJfjqmmfD9iUjW6cQqP2Q0S
    Wl/QAmCoQj/raON0VTS/VpZj/g/Ym9BKbC1GA3qr66XpLbKGFyMEhaLlSJ3CTlFVSphAizC5K/NFD2LgcmtZt/Z8Qrnn2+us/
    4CddXxn6nbA5VZNPxWaWd6b427kKFrxbwXKSY++0xS5ixuhUMosBLH6nZbEp8ZG+Sgj3cJzaRYOJytJZvLllFXsRy6iXGiMql
    G0wl5xV+vJ2ROH/AhqtynNGrBV7FHInuiIxNbYpskpC9wkmyTmIWoOe1Tn6EAfGWpIrkuEc2Y9xo6wySa7WY94Kliml96lezU
    SJhOrwyyvNLkVxJ4ck+oDNxDfhKWWccVoLZU6WUDvzYFgAwa7UF+JevxcznhURM5ILwezWVpLxIKeS9TMw65w1IFL19UVH0ip
    JsK5638TslEXIQ0pLhbrBgDIbG6P1Xj0MJm0okXxYDtEn59soDw1t/XFYvcF22hO2DqcdycZfcn8uoRF7qE7+6Tlsn9tcqE5j
    K2r4zS38KOA90Eyq75FKUAWPh7UI+77aqMHOcEufVQihXhEVyIViF14RhWZVUBJB4f8ZayG3ZFXttM20xntbzMJ1/E+QzLgs8
    qYCj1tKQeGmmnADypItOF7mjOOYdovaWgN9vstH7bNqNeOSxH3SiUkpyqxI52fcYglNbS0Q0a1MO1hLpzP42iXbYupZ2A5xQZ
    O6NtskLCe/HYto9K64nIt9syohZy9bxiF/5oATuynx9ydui/4mOR0aRkZ6ZWcVQdBtHpgIa90SfNuhIx2u5XECPRhLoaMuDOg
    Je30ysv5a7I8KO6nQtl85IMgGBRliTdCVVMBJdKTl6PNcdsLdxw5hX+xk7JhEUjC+0x/Ti9cSLB6xsc7rWzpJpgDM2g8cPDER
    LopKIwrWkHK8gtwexHv2gWBpr+yaeNjryzFp20mdr+2y9O8ybtPltcus13w95yxiJCjiQgTO/JxZYhR3U5GCdGTRyu2tMtlBU
    BkUu9wCzWbS4byUqVG6mkRj7hGlG/z9bb9ok13leCcq7Ud3ofV+vU+1mYVyoAuTpCTeqUA4QJEXIJMUQIKtnPD2KW5W3qi6Zl
    VmdN7OApKQIECS4iRRlW6RkmTZFESQhCABBgAABcPsA+6uC/GQw5os7gqSoiZnfMPOcc57nvW+iRwuqKpd73/uuz3Kec9A2kF
    UgTqdk7CpkInlcsFqupIIUy5+8urPp21ZEJnqHokGhzEYsKsW6SqF0lrcgjWIvMM7I+lOMrs1TGPj2fdt2qBwIfx9mEVVah5S
    43MT4A2qK6BysfswDYvFtbkZ1I4IAduURsoiYj3wue2bPz00I37IhlLZB1d2vOhDENmcR11AOBV6FtBEwn8eY+l2iHCZlPVyF
    eqxCVZxvRJWhcgbISK+eahxo3t0YNERNALCD9gPkCjes3NrCObDhRZ3Shllesk1pzDCZCgY6he/SPW2iZl14EaLH4CeEqa/Zh
    yoWnq6Llx9wbMSYV0dCitl91+vdK3V/wQvOYh1qurG+SMaIt9vWCw4bmwDHrO8RICLeDaKjXTwkloNE3lZX2TX3+joBYIALjB
    on/XUP8C07Gr+7r4jC0xHl2IHgxwI6HPuHVAGGiKyz/hNKWuujDdU+2zxnGJFAVO6jqKtF2EKFuqsTysWD3h4L1T5JYdK1yvd
    Vzk/GKjYgfICeRORY63/Qw0CrOqyLeWsrdqSATKcQQhqixRMmbbxUqJEiT6ia9CYAgGC9Ktdo+xwQeVuolTMvdYStg/OjS2V0
    Irq0T/8HwZvmHYW0urxkBufSCDUw3I9U6lVB0JmhNrYWJd6OuqV4oT373dZ5sMy8lrrxAu0GwUxEKQWZwDhuDrCfR904AgJ2i
    lZKjnWWYY3BFVLpa11+TXUzReGlivf4viGOodURD2uqdmhfg9cDu9kDfTNe49vQPjcLkbVSkPbrq9xJygTWdYzB9xwdD5wlDe
    6G550qArlffCX2f9XJdL1su0FeB/vBSm37HvIrUAWr1oW1qoFeIpQbUAWmf/2cmTChY/PufhlqPQJGUHBO+02ry+ZWV/ooC8t
    e592wvGSmKByy1rh63SQq3xxB3pVWF9a/UKgAh2Kft1VmHqjtX3Y3PKPmjc03Mw6EwGO4fpkusI0MJdv5P+yYZvFg0K3THOW2
    cI9KNwrpSHWWO4X0l4pZrTtoNuJ+HpWd4fk9XEW40jqrLnV+YBBq7pOLXmcHkxu6f7QasK6BCgFKw9w+bOVebCztkH3F51Wq1
    JClgDEp23/1POMeMllLXjnimAOAqHgO00+yn0u9mvOaZU02dNTtZuEdAler1ZIie8uaf4gvChYqlEO1CwFcnHsOlC42JX04Wo
    WHafd2HNk+rj87jx0p0OnVD3GGeRix2OVuoxdbdaWbMzPDxWYLh+rHm5Bz73NeOItA47B5hhOwJ+GcRLWPRxQnOItx3j8w7rL
    i0Uuw55GGxnUKX8CqcYfiHkHyHbhNpblJEnqjtNuI5Rk8P6GBVPKcmi8UFu3WBKsUKn1YrXbL/NvdKVS56sAoFhFi+3PonjsJ
    qn4kUKqSu8h9xhakVyWDcYqGocyf3mRfcRtzgLcJDHQbnzZU4bDPEouGmjLWbhQ6V9cmd5kPgzOfQWAboajicRR04+WzfaIaC
    PDf5vz4Ggqay80o7Bp+3dkxtA+sTpw/AIEKruy1XnUMduVBt5N75dEh55PauyzdSSpccbyLrGQW68mcVkzjZaezMDd9E1CYvh
    NFFNTxwgmg+sRmwYMCC24Ai84C+85wNF73wqT9nQ7nof1xFLszcRncaLtUBLP1o6xnp/B9tIvdtVHZH/fF/wi16HprEdXyd9i
    zddxLh+8AnWrh2ToF5hZmkJAtKIs0C1yqj9z3MFwI3TrPQ8NS9EHdOKxxZodzijgRhx0etjpsn0VICfsbylVpAzP3QMVGhihV
    hcJ1sAVHb39H8J07HSTjdmIj9cxOUQ29OrzrMc7J5hbQ3yAtQRQPDhvqU/x8WaKaHw4YAXsbJxGZh+4ZYiyF4kv7gzxF20dne
    d4ByNr3wAJSqxJu3FvHETXvaShvf9dL2Asvnm3uVP0jVI4wD5sv+z7fcZC8lht1LYeIizrjSVO6HcQaSWvgHW430UG1B5gvVO
    w+IaKht+YwpcJMso3avBbn6ChYMbRSw9OHHzdhtpT1/toPkQ1D0FS7GKoU+fyFY48bBwoXXkdW7f693/tP/3n33g4qJ+BLuvM
    +LIKrg8qN+/Z4BmEEHwlz2QlBmt1eg8QQgPWjY30KunHteW/TBkFxVLsw39Lx/W3ez4uulyo366hoNH90ZuYAAQrQQMI+xuDR
    EkgAVgfdhNfsLCO6hHPJCWYA3B5ho3nAJjeCaARl23M4iH0e5CSs5bR9HPuoVys2Kpac2aHiHcwLse14NH5xNBAyY2mBOOrlw
    YM9xANKL35DPI5V3Xu81NQZEJqv+Lx17otuMXvUNrqNYr7Q88EOwT5Ge6otth46xUrh86nwAouOE1YUzq+CIA3tw0WnJFj04q
    xAQ2hfK3tzPv8CQT+v0omOeRcsuVn28B5QAqu2uwP1Bm6K0YbNR3uQLh2apvqPML3tdubTEZZH8Vq7P1cb2y9iFAeTBpqmYLP
    K7sBLXzqIY5id01vydLjXEi4teRLl66CM2Wq+6dQhjZNHxLQsvLKzoOx2H/a98pxLK4pP9rwcqvANt/Cqea9fbpYUSy2CZ8GZ
    WFAWaHu8QFmwq+Tf9ya7nIxiVB5jaQXKQPC+t3vGOSca7PLjG2caaTMfGRTuqGp+7Zwxswn6qhPbNa0L64ZetdnRazbJJ0BoD
    oa97m1AN/W6qNTw4dof9Djub29uHVsE6Ht34XXZTvrT+PN0t0vZ63ZubG5RBVnxAaR5WFSl8vHYJvfwPpzfQkcveUHlwYjvII
    CyVh+b8YXix1ux5Bu+02Q0zI8BNi86mKJww8rNm4Il5rZvM/0DagNng4laRGbCMI/E+7Me1e6Cddh3nEapsJ43m2BZdhDyuNL
    fw6KhfaTiUsUl0FRNy8b3rXmpdh6iNqn1/wROQbxv9+44X9IuZknqpnBWj4b9ZOPk1AOYN+aj9OH02mZvM1LYoP3Y6WAjPlAi
    44ssEPhRGudQ6Syvl5u6ocqWC2RLsN58PhVIqhP9il2IcaWtfXu3jhXz/gGvVmkca/yFXvnQBDtrH3E26yD2L+tfuA10aO3Ye
    S6g1tKCu5v+/r4vLHigz7nDCvdbC2W2O4UT3ng62nYKh5E5iczMrKTgds1KDG7Xhhk3o+bBuna7cTjYvPHj/l89MrrxzvDBG6
    9VYIADsxtDpDd+0idKzMxKD+K7djc00xkJb/qILGOC0w6rBz6OA4/2x7oo1wcrNRwkD+M3HuCGih4MqxL7EM5PhGzGN35i16e
    9je9PyJCqbhhs3bgOt9zWejMAb6jsC5y73CcQN+0h7ECNxD7iUQhGjxD1pn+ByAa4aD1ehoaMamudJxQa2ls3LtHPMM/UjClG
    5Jty88ZPYPhuM1piGwPYh7qkK92io8aC1XLoRZiDLRSsoTIE97XnYdICYVBf4J5saPg9cOneuDTsmmvyELIog4fKSIwIgEsVU
    RtYMfygfWXPThyAn5Qy0XZs4+RxXypr4nP+d+lJg8b7ryR3bL09KPGHtZGcxvZc+IO8qMpDwI8H50wkK8wuJPIEuI4BwuwlOr
    Ffl4hL4n6e4rC9epWMuqW1ukcF7JrvryHKgtcZgYddE/4GQ0WNCgw47sjeNCslw1tVMHLJDyuHHo8ZKEqDv+FZav7BwHvgxqV
    tJAwUfxsNRjd+sgoDw95/AETJ1JS39isdVcJ1HcN9QgIEDVB1KooXrPdunEOSYJv9Ix47/x7mETM7iLsOMJ9JzgF15Iqlp9gT
    8IvNzxuXzIEZINLDfmN5EUThscrgX4md13Yk9hPHw/ppsKX+Zx6hxv1p7w5QTLlt14EaJK4HsEq9Ug89LljSruG6IkC2LDVN7
    VM3ziEQ2b1xCWWUzo+BdceMCjipb5wbIPW9Cs4bW7nYd83ugb1sDgL6ZwWRGDA7AXbO4n07D0uNP/wu9CPFzIfrpcqzBzTOML
    sY7wT6UOPhmZxz5hxsk2eYNGAPgUYalFEjxrtZ/adEE9ApN86BHZhM2RWX7/rYPr+Nr1m7bJmC8TjYfRt7JjsbHmJ+5sYbJfI
    jgDt7AkrxtoonAZVRPb/YqGTS1qUtXsCl9RyAHIn/WSW/lee6bB6of0pn373wweUPHwaTLX5+eOLDpxMPsP3E384m/M4Hz+lz
    ibkXfLxg0yXP8Icn/XPXeE1wC+s6V3UfMN/y8349+7/ev0Cm4TfsOmjNVfsE/8Znydj7Hvl4r1lLHnUW4nfFaUxW4PesPfp5D
    Xf68DjabH/h/uI/fkfvf/gdtv0Jv/9VsAM7a/KbzgEs1t4LzvN7gW1/g/ck77B9A4zAz4LRF3/xqU+AcdmujZbj+d7mNfD9y/
    yePZe3z9qjz5BDGe1nO9A+vEIGZNzn2x8+xn76NkaDrQB/8JvWbjEnX+bV3uRzqp8u2u9PeH+9w/G5as92wRmbHyEL8gX7Ftm
    K7bf3+MQXfFy+/cFb5Gf+DvmKL2GcyHp8yfvvmrf6BNml37XP6Pvv+fNe8J+YPcfZo1ftWpwXfO1pzBvOIzFFk7PZ2nuVPLCP
    ig/25hmws350krywYoz9CV+/QEbUR8l+e9ZO+6fEbnvzx2LXhQUALleyxV7+6GHnfG1ZaPHNp+zdJ+yVN8HBau+LS1ecs6/x2
    0+AZ/bmy/buT+2K58m4q/+fI3ssrvIoOXqfAFfrzSs3r998y9rM6zoD8CN8B/fHVV8nA/Cj9qnT3v5Hbr5JdllwBZ8Ex64z0b
    4GXl20y957FRy9aKn9fIvMsuCLJZuu2o9WW4vF4vuGtfykP+/DYLD96AS5eU/yehedlfcnYMi1n687Y+1T7FGw4Yrj+CdgksV
    3ybaLb55Ff9hnXyZH8ZPOIPwa733Oeuga++GK/fWm3+OSfedR9Sd4fPnt18m9+5p4b+1uPwkeXrLzXhFnMsf0Yd3fuXrP2PsP
    37zC66L3zrNvMS6nvX2v6X2yE4PHmDy95N9Fn5+UVWij9bL37+vkbH7Nx/QxPA/5m89wZE6Sf/g8ftO4fM7/80v+31/2//6q/
    /dzv/TLv/Krv/brv/Ebv/5rv/orv/xLn/vNHTN/5+/u/Ht//+//vZ1/9+/M7PjNf/AP/9E//if/9J/983/+z/7pP/nH/+gf/o
    N/8S//1b/+N//23/37f//v/u2/+df/6l/+i//X/hP3wO+/ZD9/2f//S/7/X+F78af/9pv+38+xUb9iTfm1z/36534j4lqKsqI
    CJTLkkk9QrHhzExVAEzt86h6iLCRXguF+x5E7Fo6Rg4mQMnMUUKaJek8oHVSjjbY6uxoq5kViqRUe4+bJuVuP4DVAssNOOMzm
    ZzDmvExqDhjxncKrdey8Histw6QlIHoDD2spbFH3JvLnxNnbQ0yochIK0OajQhCcYJ5jLuKXRrzCYIMdDcdM9AP0wgx+JzJRW
    6jUR5kQQORqhueQnVnNPEBULzFSmOAT1TEAOsDwi5g2M2nyXHbOEJ2N7yOlQeKt2+sB80aTbwXwMtJvDTFtcKAPuGPZBJKi6c
    KRRSy7KckSM2qTo840YBYMcVZmTBC3AEi/ObY9RmSdDWtpQVyfoC5U7NFuw6SmtdZGzJqB9C9ewaUEnXqo6sYtuqSs66NuzJ6
    FmLrRhvnMfZs693kyrZhfs5Y1s7sWYb/zcTbrdY1X2YdRsxoUfeYyijGFpK4Nq2lAzQf3c7sSkg3uP4IpSDwidYDE4ETxxDpF
    ysE7abMHsWnlqOtmk1w1+ExFlXUz1w70qmMM3Zdbirx1A4jSELeN0JSzo9lEWltDrBLJLYXZl1nBivcFLrZfFiLQiPIeJh8cb
    bu/sxKjzMzdUdD8sW7GPgMo543Xyrq52yb25OhggPxdKY/bgTiNLRAS/MywmgG3v8NsWfjeKJEjiqF70NwPFtOAMw4Xbm53nA
    8Cf2tjXHB5xkPs4VoG3xFABhVpxQpGhVD2TjdvTar2jgWuEHPYQrmqMhUzAXloWGWDwfX8QtkT+S1pAx0H4OUWnQUH5VfdO2N
    ZbaEC6lB/NAs5FQaVx32vJ7V7sckzSlNaM+6zyULsYMXEK+irxaRXdUdHBwUYGxoVxYyEFWTlulMdd5ZZQ94vUZajPGf3diKW
    WRU9VIp+xIQgyuThMyBITB5S1BbG0zR3wplasRssOVhyORLl9t1mTIRu1KMuqiDcrvPFymcCXCGmf81Nsosz777JwqsmgFHzd
    Z9YAtKfCQN0MPZnBy+Nm0DZkM4F5H9V4J0aFkZgOPsClKNgdl1Em5w1ot1lqfwK4M1M10ycEq43QXUnxzQSxItCCjhESek10W
    XbvmH7OnlT8AXO8poZK7uyeDhByYDVhhAtuZ7wqAAUbm0MQEVZbVrnbVUBDmqIagKMYlfEm0HJxysrIUc+qc3BKlJxLPrn9Ds
    20nbRjD0r6NF1pPGVhmzSGeD3Qvlg3eWMsjajumMleMpt47YtTlFMz1J3A17VRP58phk3yrh7BqPY02zVQ5xcvciFz2zWoO0w
    T01ZcusxZ9dAPBlVszaBRGFmjfeA1wNka6tAO+40zNh7BXLqYtPnju2kWmSv1YARAIEHFDk1Uvpgj4milTGO/i95sLAg0p6UD
    h5+7Za9dZy0G5sBcGqASSG5s7Dh/Yq5kfFQYC0sg8i+KI0uPIyXpBHYp8zTbEBFBE2TwSDy/F2MSq5uFIEW6e6OvOhd1coQrI
    ZFJHCLyCTuI+QBm50tQOa6cfiigg6WTA+Riv0dzcxVMLmWOoAOOGCukD0EdoNjXmp8NzrjD/BPZI0DZVNsEqBgRwnhOyRnXVv
    TZIvI5A4PsZPHg8fxvM1ZJ0tjgW2JIsWBdfvRjUHgFD0w1KhOpYaTrlQlc5FCQWICbGNP64rttwYkwAOy807QMutUdkCCIHNh
    LcQ6I+ViwjzhEww/RRauC1JgGhy7Y4us+hgjAOF7Pjcc4gaMwrJIpyJpXji3bNW9z8PBRZxWS2sAN8CyOuQIwKIY9Fd646HZd
    WNml/mA9Za4QBpykRX3Wv+xiqZcGcjMcHZfry8EbL1CF8C8EKW07Vp9kB8Q5dfdJhtls3XMgf+rvjF2zSjd3zF7puMIO0pUiN
    S2CHCkq1wMhoEWazzdV3UPA72HJyy7XSakZmOOFB6ir1jaQi4kN0rBHW3Pge39cGzv4C6ybqFo1ojsbsHq1nVo17D5EsLqeDz
    wHrBQRdsXuLU8neo1cdZaAJ4RWLJHWalBHkIoyDpstaNkpAYPx7FFJ3LcqEB+DwYmwkXHw8i+VZHg69oxUfbF2+BbE3J3NXCg
    VCFAe1SJbCviDof1THzvpbACCI/MMBOBpZnohKQR8yRsVqPCLlTnO4p3PrbTpTWi8UCVgdUNQijQjzckliJBfo3Ce9QH2RFUB
    GqGqBwQnvDEgkEOi68UsFRdWIz7zgFo6/RBEm10Cqevi2RXJXoWckpvVmSeCtzSZAU7J1IdZeHc5xwdzErsAP3R8tLCfYPhUT
    tkYTITXcRhsi3OcbXwToazgaSAPQ9k9sQ5gEHONJKVTOgW0Q1+3My7WgI2fHk3Q5tY2xw4ICg0yuYysJZRtZSgqxdhJyqYVwT
    TKaWsYIuXp5Z95kB7BBApBHk+hwIeqIc4d22Ssc4NdZlipdiuUHCODq6crKEekevFM1s4wUQaC9qLHre4LpQ4hoOjZIfi7o6y
    LFFM2HwL/G2zOeiBMqVqiMG3PYy2KC1x0GuywpLg8w2zllkuR76Fyjc0UqNvYRcm2yjwCCwgYtWWILyqIAMDCJP6GGXuLbhOP
    8xL4TXtYnfGuUwCNUx8yvs1mqKbdCLuF7i87JEkHeOPPXMVFpo5qiAdHsKkET5C1FaAy/zWHx0kB2Rn2VEYhx1cVjjLgm2VFc
    5r+9Z8cYgcSsi1qdNU8DBCClZQwnlhoASKIiixcVLs3mR3OKiy2Wj8j5wYx8Z/t2A2a25kI1eITlivRgdZTUqvH+O1tKDE4jJ
    LoDa92LkWJacs6kZMAzQdgQWmqcb9vj8iyyHSe4Il1dXRr9VuvJn9pycVH4OdEXhasn38oW16D41tL50VgUNvQpsM7rTSd/Dr
    hMcEe8+2bWsFGPW2NW2+Vj9Yb2G2yroguESUahNZHUdRKGLNx0kfeWgHkME+FFdzOWICjacM2ZGGKOnsid7Hq91p15Gat6uaK
    9hjlfMFLkdK9BDtMTzCEdGestiVm5QXKG02LObCgXEXdh07bElMwdOcNjb2KYTs2TD0iihyMWsxpkfC7FF5A3KK2IQxe/q276
    8DMeQJddsctlADBkwk2dxJCdxT5aeYwUH0H+c6WtwFeZ+mIvaN0kssnVUF9O5Kghfi9QSdhn2am35ZOAd4D/tYQ7okhmYGa1/
    2SVs49ZGtZfp3tXScNnFwmJnb4zonfKWhWeJqKOTDIKc9hQNsLn0jsJgqpSZL37ru5ZJOSNwyIWn+4Oa6ADXkmgNlF+xvcE9W
    0p/h1yNJjpN8VG5uQWCDey8G5YtD0vKul/SSUNgs9Q0QknSLElWDGLFBnxS4GDh862vw0bwCnLao8MhHNmifD0MpCggkFCYDK
    u8Q2kY8bPatg2H7xXN1nbS6wlqsSNm/FMhGR7btnHE3bhUIOR0lAUpYLlmob78XRUg8OM4UOJA12ki7A8LulIugkpqIBYXcOw
    PrOpqmODTFOYydUdXmYAEYstSx+Wp4Cu4B2T6/zgq0UUUeACxRVCjqkMSmjos7V/pcAEA6y34vQscV1qtE+mhLmIIW3BOANhA
    nI7xKs3KRB4YNe3ADFGA1WDtUOWAzlQg/cLQ1NRYzkvZ69pmAKSiGRgIJD9ORQKY0A4NxJkYhSDGxDQccvOl2QbAwPgg1A6xp
    FIeE4IBZuaA3A8i9DOjMktkRPXA8qIWb4NFDANc2mZkZpy52Lr3RQGU5CF553USzHBVEYQk7tFtSUeMtjgVSfxgmKtrC7i4du
    Ndjya9vO2DCOuoaWzR3naXqoI3sykqFLvB9I6pEmqOIiphd2I9IRZTS7iOX3griG6JGt284gX2xFwYVgoLLbmn1JuKwxZzEzo
    9jOwDcRVS0scqYTY24SyGuKnDZVLavoFebCA3ZnjU8sC6AtMI+YpDf2jBLLWpJbM6uA2UURRhza2a7McREgwHWR+CUlkBCxW0
    Qa4cadiIsgMVIg+HBCsUAZkQjogi7BRt+RHvmxHNkD3iYEl86BxE0N5uElVywgOMQD/C0WTIageWRMzihDFoLIgC4TfhE3SNh
    r4JUj1tlDMp+sVkAUoyjH0aOU6aCbaUh1D9VGtgtPEoUMepJAuWucssEiaGHiKyjun3Wt2PgyJ5VRKlfDPcXWGOP65RFq0KmO
    Jt7x4OhaKSAjgG5oU3wItINYDMhRGtGdt2ouyx7oyD1NVGyM2ZbrLp1AeZT1JVHEGwEkjvILMgYwMEWZ3aApJaWnLlhWfXZ1o
    bA6fQDaL0cp80eElxwe/cavTkGvlHBzEOcXo0Z5KTLlXoXdi0vqJxjPFo0jYJOFxGD3ee0173JQR6fdlLggqLfRXU7+gjTj0c
    t3qL5LYigGNjFjAEeniYNN8Lt4dFDs0RuiJNNb1T32lIZb5IsGFRXtspnIy62CeGCZjAqt6IMsyx8xO5AcgBXFH00T0+XpJBg
    izURrMrfxHHEYnQZVHYzbE+dguaG2SSw8tAbjmetU0VR4+QPq4OIeRZRHFSSG0GlRmACsklZshqeuhEOuXRO03rExQpsXBHg+
    1gXhdhobIYIHu+4Rpq7jIVj3+UEQAt3RoB9vxNlzncr2dVVoM4LBROwS9h1qIWztOAVJ96pmuEgJqlYg4c22NLX9ykUcfeRe+
    8hLQR818k+5+4+uIHgoO+QPEzIRIYMXrgDxe5Ar/pBb65v1O+h5IalNWWcTcTGobh6LZIUPZRtVX/90tiOsdF4u/7rS3/1tP0
    Jwey/esZ/+dtrj/7t1e//7dUff/r9Vz594exnZ/5SgL1Pzn1fiD375f957oX/6/K5//v5Nz++ev3jt49/fO2Jz86/9PPz34dW
    /dnvfXb+Ar54+juf/fT5T545/ukLz3zy1Euf/Nnpj6//yWcPf+/n7/7xp0+8/8kLFz6+/trH77/x8bXv/uKR0588fv3nTz7x8
    1PvffqdP/nspac/ffUFe/Gz77776Y/e+ez9P//46vFPz73y6fde//jtH3xy/i9+cebpz15/+Oc/eviT1773yR//4ON3fvjpcx
    c+feb8J9f/9NMrT3z25rXPjp/85Km//OTk2U/On/rs/OnPzl//5Onrn771xicvXPrk6olP/+Tcp997z9rzydPf//j6WXvlk1O
    vfXLu1Z9/78XPrjz16V+8Yv/+3B7nu4/h4u+/9OnDr1ubA07Y2Ny7cc58hgFMN0zkcqUEbBsZkjFBcNXQMWDdBBI0+6onmBNs
    LeRtbYa7U2NLekyE18qN68jpsvpcaCEqtZMlQN4NgrFCDzr8tO4OwngbboeTlZCEAF4B1EeaFIKh+jBmWZuuc7mFMyZcZFN7g
    GugymhC71bHhN+p1vnGubLevPES7ItAyZbDgFcNmXMB0hLl9rypmXE3frKGKn1IZDkmSyAyFdPqFsTJYaa+1INWvdef26brAK
    rGI2Z1ads/UhVl4zXbg8ZBWaFaaz1vjbnx0upIdSUERnof1o4ks1fQy+xVLBw2NZ7CUd6EqxHGV/a87oXMC/YCuBDIWgkvvQS
    LUx96hv2HrPnVQxFANi+/x9lSBoyvcbMMU2AIZGUfSLyXmMkAJJcYMbSZk2Sr9G8FWrAJmGT0/KAJUe0TlMR+3yW3ITp+gsLY
    EgW/yn9f4buX+dYFfuzxUCKXSPnDf3vqz/0tfP4s/32Vit3X4jpSJb/GDz8b1znOZuimr7IZp+Prp7o1mCoGq41LgKNJF/72l
    RPULz/Nz5zn76f4+0/59QsUR7/KF09Fky6GbLnu/ljc4kKohl+Jt6wlz/OVi7ydmvRc3Esi5Wepp37cm4pffsineJp3VI9dDI
    Xy5ylw/mTolL/K/52SzjqvoE64EnrnJ/nd7/Om5+Iu3w+5d/XkhUyvXQP3ZIjEc+C8n62jHnaZc7z1ovc2HvDbFGJ/LjrhZNz
    r+yHcfoq9kdTWX4yOOsEPqz3fjZuejx5Ty9+LQbc/nwqV+h/Gvb4bXaQLShL+fb6o3r7IvtJ8OBsDrcfRXH0vevU4O+Esm3ea
    rdXXH4+GPYbXXVde81lzVaPzJFt7LmTsL8RTvOBTxfv5vD8X3j3Df1+IB3wl7nWc7b8WqvZq5I/iT334YT6yVtApvphmy6lo3
    qtss34/4w1Gm5/mI1yJ9rwaU+v1uKma+joHlzfyNh93/g4IfEE+hsUukV3fOXMwcCzFA+V2qZLFBGChMpvYLJa2ApvDxBol12
    ADSbthqYx3xSiJLcx1ab6wZy+ufFhXDhBQA7aI7upwvLkCa9I2ZLOugfR5CLtTT44qrnIQki5QyCydb6MmEtpDP/cppFXzCOj
    LVvZotv3WT+8qPlpmT760GXUWnSIlsUMxUd8oBSpxlQkzE8cgmi9u++qB3cNULZ9QSA2CDopksy10lL9WkoN4NGiDb/NFMhJr
    VhDgGwgqrAyR0VB+lzya8rbrxLy7v/P5wNyT580NOTcV8LzV0UayyM4Zgr5C4rYWtkbqVPXWkTSC90PMunQE2FbJiPW4F2M5T
    8f4y2uzHbjKPWJJPH3NfvYkbCMFPviFX0lZxa8nTBjT/+YyDbr9gZfELjGCzaugOE4uKUmhtujNgnbT7rK/s5QFOOlcUHqybu
    ZpentKzK5ycNB3n47uFfzfEQZtNy38lBiHpsVY5ZyRMtET2TljTQVjhqquZ+McniNvZumrZxgK4gCO4O3b0wpwhUmkcPocgLq
    pZinUAvrqlIHqBMtKp3AUg53fyaRfSGiVmdAeZ8vMzgO2fevYoruaW+YyosJjYxKJ3dXIu4vODmAa1sh7QrC7laAfIAoT02uE
    EyvGCVZgbEw2JlsDisQ288pGz+5aJEsXQ9hEjbh6MDg68bx3sYfYp4FB65DQcstZYJwfA/UGY9XmRXQXfYpsyUi5UJEpdutNz
    yfaPDgoIFXUMCLdAyeOJtLq6nhLwzqAw7bGci7USFLafjhwlJnXg9diSECRA7hFYpdad2BOvdpJlUxUkaOsVcqxL3SrGP3VNN
    e2xmBGwVWqHrkfVEXs40E1WwEGtsKP50bCOcmqVLYguYrdjb2x8sAoLlSJww9WxdbJadAgbrvCXPAX0z45M3MHvdRilPKE8Dh
    q+X9Ix7A+aeSxnBHqdjd9DTISwedYShkBhZUQM7oPAj5URFupJgONeXAlVV2vCrS/HEkkxhJfC2IEqPqdhA7YORO8KIuFY3RY
    00nZYlSdktsVRPoJ/BRxLXAtMYPPljoWbedMkSAfgccoCkXQ+GwrzrtLVjqFi0j6yf4LzoKqfz+r58coa0LGlIl6YCXMj0E96
    GawRxEXwgxo2WNgB5Wcx4oGxbjF5xkOYTzDWRvAftkvHFbkqMSHMBMBeERgAtXHFLZsIsoGRgdk3fB4jHkSULrxhZgbtls4Tn
    U2BbXJKop5hBOM8vHgIeo4d3rX08zDCZFuW8IIxU691q7fY4mbQ3CItXEvcFTDBvVoYBobbxJewtwq2qf4RH9gh6IdsqNF5/9
    AYFeMXzUL44QbchVwTI9xP6ITAehbnaTQHEjEkUzBINn+TDXlIdavDBOf42Tn6K0qKE1uRq7zns1OT2RjLEl3vydhiwPwZHtO
    rzdW9nANjMcM73L2ceu/X7uZfXlv+u5Wg3g0Tk4is5hDUbkonshmNl5A5nlALQDbwEDjWnHNJMBxE3mG3mQ5gQgHZEsGszGCb
    0P2br1JzCzEvdcKCRHMlRKPsHvckyyFr/YDh4k4qJKNMwn6XCv4aO8eHERilGAASj3cL+FTYu5IC4QsZ6ARisMRhZ8TywPrYQ
    XLsavsTDeB3SMA50hUrNY+zC+gU2wfUvbegWS6svh3wcfzP6VseECXV0E56e6ugr6waWJ1Ly0ku+S22oypPYtFXSwFHHeVyCa
    BXxL4t1E0GOst2I56k9FAPL1EZaMGbIRw824n//3WTOxYXn8OW0UV1Q+RQ6jSfgAQOx9t2dcM8RwDD0neW5V9Vt3OxVqohEFg
    DToCzhLOECYDocQjyYoElFE415WyebAilxsBj6T19lgo45KFx2CXUipTkAPMNWrE0b5CoGGjEsORp7wbRW+xuTrrnu0RSmw1J
    AWlBDDYYVMuKZ3xzZe08/PEdvxaWB5kN8JGQ8wPepEkNDvaOYmAEvt0OTkgCfPfMGzLJElkeKrmjrSHJTB9ozzlmLoxKh9Fnx
    SeXSAVI6mmE5Z4BwMKRMG4eYq9swqd0hbJ5FzfHB1WKWJ5J1i30vjI5CS0c+FoGOvoe8bHzHazzlkPppESUZxCE0uZJWTcOjK
    GO7sWHUhxtBQajUruLKEw82t/R7CJOxE1doYem1++c/YmDkGD1zHY8lN3nPaDVFnR/3J2usQeO+MwVSSEaSeS65fIXpvkMGm0
    jhwybxu55KrR+QfSDFsD6IJ750xKjjoihCF/1IMSlPi7sYvqpGuIKuq5hyaYE/03prSxj8/GfJlNqOBGQhDYFVIeplkiJy1Ma
    B1ByJOQPYVYbnk2pHJkFgTvS6mJp5/fAqcVgWW0brYddO76f9i9SX+M+3pJykOw9dacZIDky7QUsbPa1W135/xD4LLaCpBQQT
    YZksECsq4rJ5zrF4J5YrDWHHXA1bx7T9b9fSYNYG8cHSKb2y9WJglM0yRY6F7sO91hebTsrfUG5WgfyHxrSNoQ95Lw5y2sv5G
    SNk6kO5J1vQINMVqqW8lHhC0gkAHtqz4Lyp1FEjBLL4goBBrDKsMOJ1AfPNISOZTSedV6mGtemNKQjdKmPUHDOu279ydfvFfH
    zDkszwHsXXrBzA7s8jSYmoRNpH6fRBjuQRWzIgRIxgsqICFGpsuJkBdEQ3it7oG0alOGd/MegTkHw0mCu34hFa1AfdjtHHiaF
    UdQfQ9ZvrDLcTdwbKAnCUtcMVcRiJqelIYOJ/vemfysY0Bt5qeus2N0kPAtlCcAAbMnpYVmqgShJXxoznXSOBMd3DGzRbVKoD
    lkwyHznPLhNteCQy4ZlkVbXFUWCKYPWaThcPAO4EIQwNIK6NPytR3YGTlS9rIQ0h64kFTAUEgplceBWC3Mgie6qSzWqqPgzxf
    GSfMH/ScUMtAsCRmxfACq9JRmK9KU0B5BQnjnxKzIcFyTryNFIWYU80eeXuh/3ONOKiYX1fp6An6D2QDpWNtB7k8xmYPJCgoI
    cWc5XXnnQgspkBKTzYjdDzRN98Hbdu1adNUV+gYtuy3WJ3x2fwX3CGBKkzDIRUmIPvh0ErbSLHPE7zCn7k+xIDtPXKTz/hQrE
    JMgYwoVJbytBS6xQLDKUeokblQJWJzw7ARjg/Rnz549IEUbFOuoskoepGMGYI+TbMVnuwBW3caeYDcAiWuD/oPVhHvIYuiu7r
    u7CvtUhSKUAI5ilEKasPSDhqsuah6W1naVQB1FwmwVzk8Jy0hMj4ifSBUUHikzq9gkgO4TaCkYdnbsYN8jKhL2lU1U578D+pg
    2EPI6EJgQDV53XLnSnSSbMaqwyMTlZ7YUKJ4cJiY5LpeXs9eORJHSHNJZsp+/4mydZV+IARR/3JmsggdtKOXnpXUZlX+MjFX6
    xhCe6zrw/E1bkQlfqDa/dUhmyq0aBTTiQKViWL/rqL4Sbe7ScgvssK8AXHw1+RCo3UEcyaxN9+hhjWyRi1I+LD2fMqz/7UrCz
    uSkcY7d3kSeEkI9npOz9rEnV9EC+qYcI1qRZndWI1s9Y60zHos6mJP7OZvKqQ5mfmjhKAfOMG5VEGkY0W2z0XLKpoBdYAr68v
    39BHudcV1iG1WcjYosBjdQUXaKKDO4p66sL8DYM5OQdwKME42gYSYUowvxXAEhKz0ld3nJiQ3Xx5VjSWwJ0IIPoMhtjXPu0tM
    cbsr/VSXFeAuMTEDgrqsM9wGh1BIKnTzY8lPmE4rsdiEiOPrWKxQWT1WVFCRlXWbVtOdvVKTNr0rEGdDNfiFdMBn0u4/6nJQ9
    cJggfjy520M1TBGfnfuoGwoBh4GroWC93lcdLf5XwOLKMEuaOlV9dtO5Oo660cDm2NYBICIP2DIi4NsV0X8g8VYdLlnfDgoAZ
    Y8fVa2wRcru5DDhJ44tpoxSrI8mcCSEG6qkAyaLTqtkKdDuHMFHRGWDcFxzRbAxqdYC536CymIfcdJJ5/DG+AIbwuN9IUUh1q
    uItzNBIx+s6snSqVIBcIEKMu1woHNMZGVmA+83g4zAVQ4XFONqStqB+0UgcdgHAB2Ab5FrFSseSOGklSd/RnvOeAh/PhhDB67
    eIkSldoujUW1SpKLqucjUcKceaz8gvI7Yb9xDsl+pQrtJILXiDu27QBgLVLh3zx5Cp3lzlzALTAwZil0xGxvyoPBbp6oGQm/u
    gs214ZhhaBU6k3pnGapbMmEiilP23I/qjjddSA6LvoidDXB3rf4iwZtTje08EhK7WfdCa65X2qHl+CJ77G4qke9JSq8oR2KHx
    mVKylcRhIVNeCCxARU7Ch8vFLMfgsVA4EyeTAmZmjzw7UrYOdiYDXZb0sFrlCGy6VLIBWwqqKZgDoCLUyo88GeGtViHB1uOgh
    QSWWufE7XsC0iNc4a5GAYAk3Uj4URK2CkuRVbiCfGxTAzBoMA6oPg4ZUpVMIV3V4YBXfc4K1wM1n9wF131OByFexpdxeekGF8
    FNsNsh7oN2PAx07rgDpDQs9b5qnCze4q91Sb+v3h7iskspAAHThI4S3QgPSOxkFgFIDYju3CUYgW2c45saxmubyQbfWfwxs6u
    iV8Tgo6uN8sIH22VnTOFeQmlok0rQuLDCAFHupcESd2AMUZiJAuHeWGMDsbePtcWnKAEG60j8zdNnXGTKAgKx63aL8vpVEv16
    UseNIP0HeIohK7NS/qvs7AApnPPkZLoDjDHYHu3sxY+2GrpVY9C0HeLABr2U/ZB/LZgPvybH//NH//N6b/5s78589HDZHm79H
    8+DQKlIdxK+PuVFDa50xCe08BTc0QTWc1suvLs4bvjldo/J9urdjY0ImlaZFCTdtZK2hd4LaG6UMVJ9xdz34FZyDc6SxmjW7x
    HQHjrAVVXeLeoNasH5DtQWwYrDr5KZddVAm81jEDiC43y8dihw35Jmh1k01LGmFlzsw1wHol5X0+pWFANLa+ePY+9ugKeQrje
    pdBfgltJe8PaHHi0JnjoUPbjoKXGK/+qh8ogVaiiXwC/subfuATRhUQuAb0Xa6bZOg8pFlkz7e6wMc82UzwlbbxrSFeIgQ01E
    uJYC1qFiiKpdFnIV3SFTERviF3qwxP+Gn67CA6mD9758FmyKF3nq4+TEwm8U2/Yz7ft/csfvEc+psRLRVak6/wJHqv3yTP1dm
    KTutTyUYnJiXd5K7iTPjyR3gUH1lVyK10la9MVcmCxpfjcBy86d9V1+8ybzpTkDFHitvrwWXsHfFiP6CkTj9Q1Z5zCb2jfcfb
    BO/xXnF7inrqWGLJOJg6oC94b4Mt6R4xf+ARbiG95m60twfKEuz1iPQeGqff9ed+0J7/A716N35zfSXxZ+B5Yqdr7ovXvsdfV
    ZjGKkUGMd36cffE2/+Z37bVH8AqZqDQib5P7SxxSb6bnuOyjFqP1OPmvXoxx889dza58LZ6anFt8F2xe4qey+71EjqrrzjgGL
    qx3Pvhhusd1juglb+976FNntMJ4vOujH6xkV8U/hrG0PsW4sQ9S/73H+14mf9gPyZ+FPjkV9wWfGdriIyVOsvdj5lgLwRL2rF
    1NY/nsh485e9gJ++YJXuNNMqxdILPYyXS9Cx/8ReoNtoVPEjPigj05eM2e5hhdwLV8lI/zaeNzmmfX+buzetmYv6NZK3Yz9vt
    V/fbhd3xuvMN5dIlzFxxkbB/Zyp5JrGUY23fxNGnev8N2a+5+19p00q56ESxaN8/cfP2jJ2++gpPCWcH0Uxxi18AKJXYp8X6R
    hevkzbNk1nrqoyfAtGWfEx9WsIzFd6/Yq6+Qr+phvfbRiZuX/BvXnI/rHJjLyCD1KE+sM/jN/j1hrQJb1+vkD8M33iT3FJi1y
    GZl775l93/KfnOWMLuyPQeuYvd5C6xa5Cgjl9nN69aCM/iWfeM0XwOvlZ4VnGHnU2885e17wz934uZl+689A9txMnGqkf+Mn/
    9p8LHFs/FpvN/ILibWskfEa4YrgUmNz4Yeep3P8xNyfr2BtqhPwYhmr4EhzPvAnvcEubces++eZGvE0IXPXWZPnrQeegNPxH4
    gC5y9z6cRkxgZ206D2yyNAj53iVxiJ8FkBtYx9j3u+KT4zMCO5p/D3c6qJ3ykraV+N7bGmc28752T7rU0xi9jZoA1LljO/Crn
    OZacfzdf9ec9oVEko9rr1vaT9vyv3XwLPYyZaK15lOP2lr2uGaY+10w+S6azNzHu6nv71OvOlPcWZkxz++RIuQ5WpFlJjTBDu
    LcFLcyv12v+qs5lAt9C5VpYuJ473Z02C5YqxmD8i+TLTDfhp3ixqr9dDwdEp3iOjbAYhGS3AMiqiCva7JbNxmKqKkdZhKcalx
    aUBqcniZiZp7s9+R+otWrEIDMj+xsUyW6z0fsSTVdneU8L8KlEQgDPwQE+AuKgdtWjuyLncTkc97sPeESTsKaAhpBHeMu9yGr
    kesmz42Fv1uEXm3gKpkMaYXp2g2qZTghTMihWo8lv193VRrLaPHsz/6X7v/hNcmx9M1lJo0rJuyWQabeZnsWlNluyYZaSdRfc
    rpmZu6NsUnoxgkoi3LQPSeXF1UFCMkp/uVDm3VxUmPX7OyLVYNMRlvnfqhJWeSIqqbpbG4ORkxwFgwzCDr3RYjPeArRRiR/gc
    ib3sTqKZn3wMln3bZbHVL+3v9NYIx7SJ+5ohzuxTPXA3u+kMsXSQkg2LY82GOFbqYfdYZXYroRf4zzDSEWe0SNYddUAMNJ4xi
    /FWpuZHcnTaZEi3ah4o1KUmMgQGnaeujp4egEn6P4v7ZRrY+CLDPayKhkFzyFfwj5TnDS8/jVcUWFD878PrK0zHzFSaNiduXt
    tckEZeTCcbcypgwdPVExfHttKJZksJ8QgoUJJwWpp19qNl1poESMrKnmsKRnKEFrd36ajaQ3eNb+uKT67i2Y4Pa3eHRUUyRhX
    6LTeYa0gMzv1WBn5Vqkr+asIfGiRtcEFhSPo5IYiCMt3A5bTrKRYZQFleV9kd7RrKHirbGXNtwAgAU2F0Ew4wMZTkEx5OyqMH
    dWfFIoDdVOcqZDwkmKPA8IDkHK5lzIRBfJGSy3Atd137DqUycYlokKGG0gRZG4o5+gLjchIkgJV4cxBMc7jaqjEQ1JevnTiG+
    xNqC1oE60/muxuk30gX/eBlUwrZwd63zaWHmpjB4AT9DETCaasGRsQGpEgp6/YZKkR17Btu0g4J4eEYXpKS8IT+IQQ+Bh3KxV
    vEpLSDFf3dxaWWnijpziCpMVnqnuqyKwvLaQEX8gnYn+oyUalumUWB5IODgfVqucOPF9QFRKpZjBwXgfafagFXh/W0r+rDrT7
    TlKwBEyZsW9WPyqqx0BbqpstZlsINvrXk+5OsrN3z57fRgzFOS+WWsgDyzwxyvs7u+YTkVBa84P+l/uRoSpCsA+5CWclQgB6K
    PyOyg2zxIIiZ+R66pXDW8AUzaH2GA9YOuevPHbKchbc2YnySRnvduPa20b/C0nl8Aq7Fm2RarInQhBoHIL5DdLufQeQImIEpH
    Nf22dChXeWW5w+g68u34QvOL7ht1K8ZXHr2GLhZ2fI4CHS6LkUxnM3nR+i2+YFCgfQKZvfDDxkvbTxP8ewdElXsao+cxqBlUl
    bfdDWg2ILKiL5f1QEg4rHbQGShghbufrfxrUfrIqHMbhLxaKxUIvCn9iv36C0BrBk++IAKIBGQiQaiJiqrdXoclMAogeoli62
    NfLeJCB+1JxxAiXk+nzixOtNDmWb+agIzkcvnJswdsqKfEANXZaMTw+sY0kQusTsHNGtUAyho8PInWG92V84QTBYntzltqlYI
    0LjzmhTknKHtk+IeSAWmlCRBYReFJxuQi1UDBneJdKEAzUf2ThS9qwS4Jl8nWWKe0aC3gwim9Jg9BtAHUpqowIIrbm2EKPYGm
    7W4Qpdoc2fqhXW1MDrNAPelE1XygAlx6HSCcYconJZQh+aP4TsUCyd/SAGUnT1ocNfDp0kkt8MhgDJtemsQuwiZBNxwS6SlNp
    Hg0CNFcuclvsS1eEsJhy7xGxlR43HTiAKoYUHmhDasItFQTTZwiphltq4MKgd3Rhpj7oZj01jcu2cCRGaJYcFH9G5uVVr3wFs
    yxNzIZsJ+phAKFAszhk8aBD1BT8UWaFyoERzCXQ1KJpywkG4szXKyiIBkYIjFUddgoc2zsVBXp9ksjahGmdXuFtCX1hNkY1na
    kyUoHVvIkYUwV2Dbqc3CV0wpEnhD5TEVa75/o756/A9+9qGSh0ENgtIWBPKrbbeQrzHBpbLX0ZZs4GloxL3UlSlIAFikowvh6
    YYljRBisxKdVqYMTEF2ECbfaTQ09dsrov6b6Nq0duF0+Mi/zDgic98LzkOoulUfBUbrkCryO46pZo1b0PWJDg27Cg/5IJ0nbD
    vrFX9lONtwZKcMF5sMTOT2ZOJMrU9e5ZUu3DnNiFrkuqyu3YKJNArO76+DpnHWk9BWTaH80n0CYuGmdea7xxsT6eojbGnUKKK
    0/PecTIicUghVWF/toflF7Cj+wfcesVfm/WxIPJYqUZHK5FnhNAbpkYimu4ll3YbRkyAQCNBQLStn1nb1cIdR+4o/gtYAZysl
    ZAeLpv+6kSoO3IF2tccIob1223t9TahX4QTZA2dT2wDBYknZEocaI0n7FGu/xMQK54iZKUGloz7pvgp5lrXJ0pdrJ33T0UEvD
    ivCTbQ2skydONyZQVng9LS6xERaFKOqGi98SLUUMNOFT6T+XmZiwH25vEVZ/DeEPG2r93dbrrIVrnsqjZ6ThTIBJO3aOiWAjc
    xDoCgai3GPAM6N1qQ5OWAmUSo20rV1ufZXb947xFpwB1orW0Y0G6t3JlCBnP0AGlQJt1f3AvTcIUZYc0SFI5tkKxlg7ZYVGO5
    81oJtXgvzVsBIgE78Y5KqJm+iP1oDrfISsINPUNvq5FYCzuCDrX2ZKAJScMDfcQudjlsYZ7wS373dlbL1xRtXSn3Pp2umlHMq
    SbKG9r3JLqo8vojMsoU8tH4QA4h2lAWnIRuSO3WlNXaSGiKlUka4yg4wwo3x360G0SoSULOjAu3dLEIlL6uURM4aK14nHMACZ
    RdhUPslmIjJnkAak6ELsCUaw3OuaWFdLJW8s/pVqcd5ncPtf5FWyHa0AfYzTzdfJEiIyHRRSrXZLWplInHV2hqg0EKgGQZcFm
    lo+0/UYfDW2jpuRQmxjsRo6OU2En2rBFeDwf5XTDcCUsfJM8ypm31EgdA0bYonYRhE6gnRTiKkhhD+9/WVp2Y+XvQVA0F5xXW
    vLJlJBTizDiqegJ2wGZl5qdUi49ETYg5BAk63xxpXaMA0ZGhxytSkRJOs6St72yi+Ag57zJ5i3YiYmKRyEcaypBMbSGhv5+wc
    XU/8e5XXcdBwlHRT86dVPVHGBu5Ley69zKHTBsl6IQzLBiM9MY5GG3StuWMwTrIcrhUdBrldQ/B5pJ2NvZ158UknrFbONKIoD
    WtE9DcNYKGyDnhuN1PhgrqbpM7yusyR8nu45LGMgAiu6CJBt5BFumxdWSBFPFmEKWazXUoVQTNtRDEZkQ6IzpuNlPDCElxubK
    XgpplL+WIzY0id5JNZ04jlKI/qDlJh81GMqlNFGVxbLPXb/YN1veb3ZLK3FMt/LHRwVRr6CTi7DagFEHTCMAny6kISm5R3DMh
    woE91ZrjPgq7kxS0ZaA6yH+7Wfk2qKgaT5y2SA/EXLBgsNMzhqf+pdnc8ODCgeMwpDZUsdiW8s/JUSeGx9rwYFVtaYyj0rnBB
    lhQA73RTIYmSOegO/E2XqGTaaPJgCtBmIuOwcWSEvKMUTEPp0Eu0xoE8kBMjVCUpSnBicgaa+8HsvoDPkKO21Ah/28d6hyoyG
    5QFkJrEGgkdq5iAegtQR56kzvbnMTOtvzFh9Cmw9xya3DuaWsqcFunQXToPsYoKhnc0XX6nNAfnwI6AkELJnkHEHopR7Ovbyf
    GIikCl+iAFqAxJ62rQKKy+7C2BvAEMLPMQxOMiwYFD3fBxrxkHBMmRBPQJYRqDqg4n+rSikMR3x+xxtQLVBN3LaoMtFXYzq1n
    Yyy9XtPZimC7bQprqigqbeKPFLDaObNDbvfOGfSvn2RrAtXnarnYXrkuaPB5jQ7X/KBItrdCEeyzo/J+cUgMExCSPo0SE0Nq4
    3pupgiuQHIzNvKDyGJIlsC2IqNYbc+soM3DQgn3eVcWpylI0DjoOwrLvd8laiuogqNl0NgX0FDwEATzm53BUDqsV4b1eJMV8j
    rqamdItSUNVlHfU9sCWMYfgJuDPvewCvQpDUg9a0hiYxMDEaBvr3DiFXEJxoy65T2lvsl68ofMWaaqMiatYlh2bR/13d1yklj
    9UTipAxLou7F04MHl0abM5JNpHTfeGCDCgSEXXDtx47tWBNnduQVJ/UNeAMaPwFvH2g/692IFfBknEWBkqsAMXVfrPvBEIW9i
    foEmLRWOw7PUCRknmU5exgfKIvFmo3+9DYlntB55cQH5z8mbR1MIU92nQaAfGcYi9Ua7eNmypLijw8dRiwHots/e33rN0uzw1
    ZKw7kfBFrrO6viVibrGYfsOP3VmLkcRb6EQyR4+6v1dvWOk4hveimTgvTaqNs+lp8JBp5yGMRK+WKFiFfimhPlx/Xx1/nBwJE
    yhMUEO3ItM21pLCIDv+DmeZDgAty82QGBKRClV27vk3vSoDDONOgQHa8K0uqHlsZXRYK91wZ22qQKtKRcVxmliP0NW2WtAC+1
    gmndkT1V6xy8Pny8UhEkSWwXpuxuF3I263bvEMlbFbr9Rb3FdeizTA4LKpIbdK9wxKQyV+rbf7ISkfjZnCbuUW1SRMLsb2mlV
    fBgbE0azFxGgxEWDSetugp1d6FT4rxCzSIVxpUd/OEIOB1XsVRHkuh9c1aPuct8tp1rU0yQvBo1iYvGhB8jsS8o0rYz6ECX3j
    goENTaJDRlUTIMpPcyIt6w3bNCg5W1niYfI7rFd0F9NZZQ4hBssS5DS3tmGTkKJHIuhDfW0DDNzrn0w9IXjFhYJNJUqSrF45b
    N45NR94DAf1JYFC8+Fi5PMzm3QNy0QPGb1whrOYBRtuPA1xqJ18MD90/d+kK0iF63Fx7ecQWQP9RIORA19ci3HCbtjh9ddqXy
    riFoyD4SRzNW8HfHx2d0eiN0osWX2Jy2Xw1wIsYyhO7MVEQEUN7lmCBhmfQjcrGumqiBAbPOghxRRr48QfK9e1qIqoDVOY4T6
    a13J434NBpYjslk83UYEUhgXJ47oVMkc3MQOjjXh4wY7PKacjlqOvGwdzl2PV2GyKmwiKmABMKRHsUoDeiiZMFWkLbduEq1//
    doyVs2Fsk2BSVuG9NGodTKZ4EjFpmGfssalOojtP4VsbViq5EMebi3+lt9pzqs0hIsOrqfGSdjp5ZOAn/uZCvD5Dk13L15R8R
    kmaFR9oM9cBMrMgwQTwenv2hhgcMD85orlIjvG+FZ6+JpGjtslWE5urYiehuuNldOiKXAjH6TVbZ8usFCDNJET91Bxrok7l1k
    v4SAS5a2n1eGH+xM70T0sYvFMuGkZZGbzXLFkQOi7HIqbX5GLoEEi41RLEqzAcHT73n38AKHJvUQ9i0ouxc9slsMw9hHyp4Dp
    s3lrKjntcl9Tc460ES2pM9B4Otz6/sFx84Xim4xHFQzAhAnEZMhWBChEM8NtMOpC6BqlgotQBZJ9BsmRnmLFcF9IQqHqnz4p8
    LlgzIAkJ7s/SX9QRGLOGVkaJTgURLVThLsllO0rlj1sonZ/wc06OO3uMMGBVTikkaJJcJrM0ZCVS8PPKkjBadSX+lu0F+ojab
    dX7RSnPYBRsfSKxN+92YbwfQeH79/SzM2Rnh55NjO30rY97zwQTR5xqfs7MojQqK3acbJuLIYmOUwp4YXYTUoduhKfqNO3I2f
    pq5BdonMFv+7IiMIgq8Ai3a7bGhILonVBfQvuk4jJNlgtHp1mZaB2JNiIA+0cHrFEWWN7WM4f9AoNc4/8FlLFKXtOD8LwjSIu
    uJtt1Qj4lK28lkLzUoorx326BNxWtn3fcWAN1mSqTJJn6TZXypYcHTjjBhMn8lZh4bWre4496jQafRp7Ls/ge/W8F/JiTiSY4
    +ok0crb9jYoQNejNBjTvcoPpaAZ10XPl1PiIVEeHXGWAejJD4mcJnJqG+CkLWKXZ3y5Aqddo32HyWKnHeS+vp7OzSNt8pyNVJ
    zUi3IpT5pM9zk3x78mIaSJl0M3PZuq/b96BkT0qSqmCaK4bqnuU4lHS9rb8kQi5bLKANGNc6Xmr5fJ9KOapSTsQoLp6gdoh7f
    1J00U3KCOkCIKPBYBBik3axKSVXZ1oUNCQYp3c9M9SBl5i7YCJxXjWCPhsSKe3S27blriE6tgztUtEnGv7TZjl5dv4I6Cp5f0
    vak2phHdz6rXnIy7dalCHsIF4BqK+5EfsFXeNVvogRLc61FX1Aw8V8r+9WQqaFKYal6zZ0OV21DNQeTYrCE8cfBHsifhZ3EA6
    N1qhAS4BScPS5Ecc6PIFn/t2xawnsaCpDZ2E5CLBf03oxmifdjXKfYlhrAM4dsgXBz6WCG1gB1lYSERNc18WZqwwhIF3tF+B2
    +dpyr2JeFOc426FdjVdzOcxh0zuMwygGn0oJRzW3zBQhZudOJMFCDOFhk+KGv/QgvAWq0WFo4ePTq/Phis91xh56GQFR6EtZx
    lsRV7HnpdJB0+RRmV2azU1cIhAWy7b+/vmX0pccUJiPOiQRnQr81eEufYZvNc8UdYVJBTeNv2/ufsmqFRYidilv/ufmFP+5nd
    GaaKxzOyXis2XsstCAZSO2veQbcl+o7bdt01ZjINnsIccRHbHpJK+d/9iKIMhn4CdUH07T6Y0BWhl6q6YQ63HVheXd9Q1qqA6
    Alq79uA9f1Vv99MetvWAeWB1iyeW8IoOycfkMMLDh0GS0rQ/AMtYkunZz/LFiDTm2SItBmHHwlondCeZc/ciANB9pXhmJoUCK
    /FiRVJvP1ZJNAlraVTPN8ddaGkYw1uGSTL3sFBO/C3zWUwnFAjBWotpdFh1rWNyECRTRZ13FsWLavMUluy2rnTDq9Vyl3XpdA
    dAlpmaLuu/C2B9BM/qD3jHfYZb3ST9dtSElOzMU0y3zh0YIiuKdrScoYhqtIaLXEqz3718C740f0u/ZtZBxspnzhfZA5GoAVW
    q06GMhKWnWmCxYOMHR6lpwGQbET3knVOl8Z9E4itZd5SlfXPYpbqf2BsZnBQIo7cELP5kad3DoE3QIbFXIbO/x3nlXT8OHnUF
    eRpiiSlPey03LwJhO5IeJQCYD77q6qWT3W81p/YHzzp0LIXAyu5CT3skDvf3PJ9lUUT+zv2VTM+o8qWdr+jnRiRkODRcFwtHm
    a19sLCnfdZj2NcXGxFPFJKqiFMHHtFhh4tEsubzZ+DWRsSdwm47X7rjyAtt/Zfd+9e/lYb/59JrgeV3BNocM4lpeQpey250s5
    MzXJwZFsqKjgb9AlKs8KHJpB23G+ZQSn1GqImwblofZKdI0WSMi+Yne3HuGdO/kJgJcR2i6Cs84mJnkqIQ5wXrrazlGWZvzim
    hSu3dJuA0R5Cux7AjdSDXElbbnMz833kQ+mbtIB9cgU6unQmx3YqtGSbw9axIktR7E3q5Pa8Wb3L3k0A4NKYtucjYTPui68zH
    Ki4s3kBOAskrRt1Ptb+LyUm707RxzKmg9I0Lcxwtbo9VNTt88tZNDE7pmayYSwSC1iSaNHugs0s0P3ZWjBHp7cW+3NmDBdxK0
    Jxgy8uy31MlNiJogXzLUdwgXqEvcJRF0uv7UXHNnv7dAa1rBpgtUX6UpItiTyVjlSVBiwHzybRbXvCL9nx1rgDfn+2z6P+I8g
    tEMPazZvsG2ZHxy53hbi+4NLados5jKxmomiB3B9EyQkTaIrEgSN+HnrfC1nkoaCK8kbdtUmwaENq118hDld7nZiwkn43xgUB
    fHdI8f1Q9t2RVUe5mm0pJnIBkajUCXCDosQNhezrpDoqNR9bJ/cNoA7OqTSXVXo1Mztan9f28hTqqVroHKkYg+R31lzeghqGu
    +Y7RctXspXtM/h8PDLH3fPiO9p0zsxM5tgjkNYLDrkWKFnc7VmNu+D1tmdEk8Hsta+mrRiDcRuGeUFwzmCcLVIomdPUQx3faG
    FQ+7KAYpGFtouk3Cq0VW/gxSGhj1zl8Vl7/UDRglszaHCRoRW6Qm2p/ct5SYsydYyvrrQ5eSLLhe+pYtyZX40gM0M23W7VRjH
    aCrW2rKfsHYbEzKj4KsRS7MnD+uh6WJp371O2VbkQcvhEkrsNaxZZeWBzqE+tzDnmbNvblvVm6++AUoTTn/CZFBwCrfQg/IWt
    LBfFTa53+3gF38kOyCzIV8jj51LqDtuorqhrrPk9EqQUidbtUGYL0YjzfS9zp9pJW0DIN43XcGNsf0n6mL5bnF/+eeK8GOwZa
    gJlcd8iGM3ImMTrEKbSsJ+9zeWwSglA/B6A82aTcps6LwqVKwECTyFLR74CfRcwZRvQhC93+AFhEFwjXv1J4H8l9o/DpKrEzl
    /2W09m50xA8xzWktSrccH7PBOUFu8Wtle4FtqHW8Y6iBiWIPwfN57mC7wUOBfjzGWu1p83MkYIFems0b9t3K9TiBdpi+uoPyh
    S3m1YRYlobxL7HubqcoaYZzLNc3L8YugwZjZY5DCURUtAQHbmIWybtQDE1GVQiA5vURvS01Z84WDmd2RJBa811GrGbbink4/Z
    jUOGPwUwsv33WNSo4rmy7arIzjLl6Zx9FnZG4bkjgXkUAiYHm5erpLy7zhrGTiUs6Pkrpi6Jq2mQkPV6H24TSas0wEKecpjN/
    LhDo5YsEBnROH+tWVzisMOVexLC+EDmgzvSkNM4K9trMhumL24xtTNJCYM5ir6wpzJLVlTxMDFrI3EEHdVaXxn0uouJW06qms
    j3Ei6UCpWwp7XldbW0JhTxoLRs8bVyWBw6NOIKIblqE+s4Q+9zWy6dZY85/BahzvkcoUuuu4aR3yLWIPq6taVXJsIUKfp9MMV
    SJMwKa6IbvomfBVn+vQBDdOEOzf1twDnb9wZ9z5QTIJPBN1kzE3uLvGXhXgKY6Kg6oja7WQmjzi9XmVfYdytqKfxsZd+4vU20
    VlbLHrWo3DSZmfIdIgM/OEu1KsKSOCbWkc2+2BuXs8MpVTx5faWXyDZZOX3TyWI7Oh+JF7B9tfVZQgeCMQfm0ApO2AE2eTein
    Q2uMxpsdRIrOJGvCQmdI5J3Bo8rkg1utxCuoOw18waNK4iMJEKdKnsaaRpGP7vwCPIB6k8vjmpr+rgfeikgfTSPe6hUWH4WGh
    BAylQvZFfTXuF1ezjrq+DBk9Zu2LFEEJdDimnG3sEz1BdBkv1lRjAVazbMIfvaNH8KJGZfXq1aPxJ5gOBfw1wKPwZrU0B2zRw
    mFI6GPxt1vo4x9utn5V6+T0oqg4dOgm+1QavM7Z7B50lBKq5ZqrRniRduSQ204uDs7Okst5zzYpKT3jwLAKRIS//XHsBpDhyY
    FcmnJhD4wZXdx64erOrIEK7K2sCiStljlh1UKQmL9RZ5+zpjwQ+MnD/vKNYO7FUkgeAvZAD9GV1dMYRBiCXbLgSEpccH99MzS
    mgiVyllX6Uzdy4Y/biOGuDnJEvRZHGeKP+fMDdqh62nmUOeFuZIJ1kw1CchqVjOQzDxjFlC3WTnVGJ9wNbhaxYBaMKpaDJATK
    eX5rztbyxuRoyxtRIIC9/UQU7Z9ITIOUpNd62NwGgAXeR4Wxait/sw2FjHKbfqfcvFn4S8UUdDe/IrtEuj4jHnBZYekyszYA9
    GdLhS6WTK4gb8ySt9XJiWNgH6rWSe38vB/fpaX5DjWPc1rrZmrmojtId2MGUeddhl2/CaqkxkfGiP1d4e9Ns48rxSwiMobUwy
    szOHDM/4wR7I9AnLWUNtoLP8FVj0xZ2bgHZHPl57SxHZxblkFzEbXySKZPQPt5F6rZrNypyXswfO4IdFlSD+ZpOY6RP7eaq80
    t7oxdv9AfccLBrZRrHjVMnBsfE61ILc5lay+I906rWek640rEqBmrifbFIxwnOt2pdUebganklvAmIVFvQhhoZRcTj3dr2q3r
    SOmc0C2S17M/IUbudgw424Tcl8TeoWrll/sqhBI27Xa1Q4z4ea40dR+THYTFUiKGwI/9ermPwsS3vIPPXORqPg/IYd3gitkHz
    VuSj3wbg45Jr10GE7Mc4TCuOq0S3IksB9QzMCa0D7pHpSh/io53GAUeAswq5v2rIHdkHLdlFTTrq1/RK4VzL3biu29U5NRb8g
    JMjTWq77iS5CcfsE61IB1sjXu4OgrMvs6VQD61giB7lM4qyW8oKqt4/YItLepbM/qk19nxlHnLYkoMttb6KCa4Kn06HQ9oPZW
    U2V4G2gwkZceuDazZFrsNNdtjE4F9A/rd902JPYE1V4V4LkrlQZ98/ehf/jf29+55v2//+wsF7t+gY8gaNF9a1Ft0l4lqMgK/
    FkB6IEwt8bg1RMk8pbyABcpjk8hOq9SgibHVkBUKpOT/aP9qKMRwks0Z7H+YNdVZbT+eAF8utdItPeSx8e/+B9shNeJUPd//j
    7e8EvBkauT8+9/Iuffu/jq+c+ff5xqUL779ceTr9/+sKTv/iz70J8+dmrH1+//umFP/70e+9/cv2FX/zg/V88/vQnb71p//v5
    qfc+fueHH199++NrT376p898/O4LP7/09s/fftE++fNzz3966bnPXnvU1x3T4NYTQ8EMQlsFIILVgcfrlCq3LZJxsC61cQcBG
    vB8HD8TTJhlFzWUuP6NlyTKHK8PGinTMboM5aGV8oGSIstCgZdK1k+gwazrAxlgn7inXhnSHqbqsJnaYmJw3s0xjNfASUShuH
    N5NnWk+hvyYIJhs33GMpAZuI4Eg9CM7kBx2ngu8K3od9sX0++4WOTOKsjdbVYOV4h43SBHiYT0s8AhKYIPtMVKyI+WZO4DZyA
    Y+n5EZsOHwfzX8kIG7+aHT4tNEux/zsXY8naCXfI4WR/Jyij2SbvCZfJvBlthsHGCkTHd68NnMYc5Oy/m13HeTnINio0y7s2/
    3/3gXXJVvsmZfwV/JeZCsBWma9qncMU3yFN5LbtXxo1IfsWr5BTVPYMT83K6/mWyIwa35VW+R2ZN67u/JOumWA4TT6Z9uu3DR
    8BzSc7It+158SxgNH0SrKHO2Hkp4wq95D18AQydYBf1PgEHZctuedmenv1j4xJ9A/bGi+hXe6K3nXnxAllMv23PftFecwbQDy
    7xKu/b976dcUhezp79AvtJzJ1vO4souSfJYvq2t+5N8bByxPSZq3ymN5xHFTMAT0YeT/JBii3zXbvDdbbgql/HxxHMlWSWtHv
    bE+Lvx9kCzM/Utg9+3M5b8WBybr1jP0/4rLmWfRfP8j75N98D8yVH8Qo4ZTkD+eT23ffJaXqB/aP2ipv1fc11G6+riSkW777v
    PLTv8Dn8M1PP8l42Fld1P86599o5zDtrBlyN9UV+zhMfvJStnXfEEQsu0cSieonz6F08H5+2XS+X0dc2wlxfGQfo5ZYj1NryC
    D990VrxrHhUfU2J4Vbj+y7XAObtd2zmvst1c9x+e8f5d5/I28/1eMFX4DWO/wWyxJ7gdXDft+xe7RzGOLbrKPGhataxv7H//L
    lz2Vr/ZNrcJ6jCfCG0pE+6/rg00CE5HdLSLiEtjWz7wDN867n45b1Qx7bPvNRKkLfXkZD0q9k1z4R8OWWm8foJvnIu1LRPZe0
    5Ton299rP49/Lbdsg6p3UunXfa1T3Ph3Xfy4+czb00JNENQXE/fN6ihdcwVzXdOn2F9t7tfeVhPeT/OU5fv71TBT7Km+n1uq5
    3uK/j/G5ngtV7vdDmvwKGyYh+Gg2Xv8BO+fF6Wc83j6XtLNdczz10nMhgP5aSL2fzPTlpTuvhz3P+/5FfEv9/3L0SXpeG9l3e
    N/0jCfiMy/yQa5QNf6ZEOlOY/1CjODp6Nu45itPZILmZ+LuaayPhyD46dAoPxHPfibG6LhrxHtfxTji9bO8/o942dTnaskFtv
    OtGPETfDF95tsh3X5xaj54v11j153yX3xdpDlwPJ5awu6vxr1e4JOegF68t/9qaMFfbR85zVu/Avsfn38h66vLsYKu8rKnoz9
    Pu8B922b11Q9CQv1i+1zeq8fZnsfj82wernyKbb7AnjzBXrrYjp2vo/dCSv6xbN+4HK+fbuew+g1z7Gx85Vp8Xp+5Guv0Gpt3
    ip/UfNP8fzH65FQMypWYA2rzFW+wxr2dq6kPH4/1/gSvdiX65NVsfziePWO25/gTRZfivqk9F6hWn/YZ3hdXO5/NnzQ/j8csv
    cy3KGTv4/V8NsdOxpx5hTdNa01r4fnp/fM4v6W1dp7P/n5cR/Nfm/xz03v+tfjMq9mc0cS+mO0DP40+ORs7+Snfo/CV89Gw7/
    OJ0vUvxAp6p+0HvPVYvHUmRvx0jAJbom5p1/vzU3tFO7ix1nyeX/aHTfuD/6mx0Nx7mtfntPFd+kJ7xvnzpn4+yT+v8jNno5H
    P+jP6Z67GAF3MnvHx+Pd5XuEyX38rOysv+Hexb+i8eyWNO9miwYv9FBmS3ySf9COJ9fnSzbeCsfmjh8Eu/dFJvn6FjMgtV7OY
    lE/evEg278QDnhiWX8s4ll+3K7wOXnDwaQczOF6d4hB/VMzYuN9HJ/xe4QGTVZq813r9LNrkbNMXnHUcv5/DZ/2a5z46wSupP
    W+Q9zqu+Zq9dxKM1Hadq/55MHQ/xk+B3/rx4Cgni/TLiZv8jZs/5lOAa/x0dt8nyM/NtjnDuRipL5G1W4zf4OY+iednnwYz9h
    vkN39MfOPiriaP+CXyT+v1R8hifsb77TE+5WkxVt88g+fHdfjqFfKlP8XXwWJ+Bn2QvkuObufrPs1vvO7XF2+52oNrv+XPeN7
    mwVM3L/GKbyS+7p9m/14mg7b3ect1bjOj7ZPz4EP3cT/r7Notd/zj8XoaU/B7X8Pci7GIZ7z5KlqjfrCrOuO49ddjZC4Pdu8Y
    F8y8N3z+vG6/PcErY/5ft7/Ak36ZLYi5cZqM72e8bVfxOuOKiPzBbW/lRBH535/BzMQN7thTUmqsj4cevey375BuOsLKJB9GN
    d5gc3YXkyHia5kAxYPInkS0Vuvh6njTI47zOTY4x+Q3S7cgMdvcdkZmBZwHeBA8Z9vyKQWddSeJvAeXJivQtyGpO2//dIJIdK
    hUe9AnIhx2L/I7qxtj0J6o2MIzv/uZ/IvMDIPsEYbdGkLW2hMaGQbi82sBQmelwF0Z6rXYVBaq7Ff2KMS5J2BwCIw74U8WTEG
    epCMQWYehZ4kq7e8gspmYzg6Pt5AeLA5CkyuHFhetrmlvMncfA94Ok906ttg2vKX6q6vmznzuzI8G9yAre9C6bLZFIJFZoIXX
    OU2yB/3vykAkcx7JVtEkxiHRfTtGeQ0sHOAJb8hCAuXne1FfiChevyqRTRyWosUYZrk4Cd2l5GMhxT7vKsa2g0zNSWyJRXGaw
    Q2hTtq6bdJ7ZBiglMNmKsL5YOeRzmDWOFJBh23u3gUWO8BNc7xJSyjDMkdciDWdgPkkZnhrTpDRcIU5uEGR9sTW61AKhw0nqm
    vhsClanYRlZ3OY9ZEMCoOsF9MXNjVU7NAk4uHERWevfBFpRbLyojwxT5oin7LNHDWqRlva/f2dxSIrXHhg3LRFJ15c4kRsY6Y
    AlNZz6J5QHSh2bEECwhlrC8h6tPgGU0CRjpzJA9xFjhoOnoFK3BWBYbK+doUCidqXLdZKzALOR+1cVZ7SsOkyVNqBBOtDzkun
    zyQuwTEiGX/50oKkFWLrzKs0nO0nYJAs0lqx2fUgGZOGrs5apMp33Ccrve5NWllmWwvMvYgLZDgFFlrMkKMgLk20d72J0Gvfz
    KFs3m6OdsAClnK8xSAvbmj5/KXbTNoT+8z6voVju5sNe5ajNht3t/UoXKfiqGc25b4MQT7nKAjhSTJ8UdXS2Tkq0yUWOe2zvE
    uLcUSyN0eMxFYdQrFDilqCfSjHuM21CU376IITYfO4SzR5IvQIbfOeE3aUq0IZtJTMgPeIF95z3v2MozIVUpCqBalOfAq8qhu
    DTcTVJQOuAv5SIN40o7Al5ejPRttZwtWIa4dAwVQhSRR81WqeNzlU7/O9IP5RQlIMnTrpigwj3ClaPovlqURqAg45/1AMXtVV
    isxhSIfsbNkdgJLtca/vwyttcCIWgxw64deJ+Q6wWFIDPQiwhCak4APB6Sl8ip18Se633WHrsu8EKxJ1d4iT/sgfrmiLwWxbn
    s/LTMTBHrwigdPC0Gd1LztnDgUhBuHphDwWnC9VjgOdd2FjSQD7+qmjE50hE7PT8d7MSieiAOxRgSQVhC+xqOLDmeRFQiI3jr
    zSyvIyyI1BbLcZnrQ3wR6/tRWswk4YztOF+1vC5JtpRUwqPrY0hT524Leq4JUGVYb1CJLFQaIiWmvKtyIL6RLOvKQWr4gEQue
    UkyIVVRERgoqIGS+JSJAfbN8tO6ZIrZzzsqZanCv5Jor9IM2wbSLJM7elZPYxcWQ7VTZSsymPrdqgKEyIYplN8k/jdAwIZ1si
    0ClimYnbLAFrbCIcyHf/FrRnLdiRF85mLH+9SV5J2sQ5yT2EeGSvc+0Wmd5O0erIOOdlIvUp29o3UuoQTsMeTRtdQK9lXkzXE
    lhzRFSHk8FOxbZSAIR3kz40IVmLlvgbMHcSmSSmmPSLncevyPHwLF2uSx2HrZBxRtlWwD4YDQYPFoHxCe4ozp2sYKg3WfI9lT
    +CLFtbJ7hsYyoQYFWgBNU+kREIgkE0Clpty7XXXc/H/skLdOdy87gJHvGJahV8Hjh7GQWDCYBsNT1ttd/h1YpO+NnWcjVHyFb
    qSC4YgIGu3Xcwg+PNHZp2X/w8Za9gOENixumM/AzGTLM78TxcGZhJHfRXs3kJaIZG6xQZuScA4U3dJOaqROfsUJQoGW+CfpQA
    OJVXtdRDLBji7MnLNpvWEuIFfcKNzSjBIXEEq1DMDL0WE5dhA0k8TvoyuqlrdW+zCIbt3apCVIFvqCZwUkQhpXaK1iipGxe9D
    zI+12TG3u6ANQHJxqgjWa2o5AkIV8vY1oqK2EUcK1YQBV6H0LIf72aLBT7QWZm4IlshXrvajrwUEedpwophv+7VXrR6dwa0Lw
    7kyzmR7ONjTpuhkylT5CpKVhZVqeQr5jXxt8E7A3M/SAREPuwMUjBXp2zPVLPaiLZDrBxA832xZc8arLVE0cRebVcJfBUdTwA
    gEXgqhbQOyevUtmuwPv3/FNvPCcJGdCREH2xhREkE9pB02lIrJ6mCNIVX09sqoWNWZewyUPJhq5fzyu3MgUJ5op8jqH8J/jwW
    tOVEAwWVkaP0Ps45gBybnNW+mskPCVnu/kcqG/B65Ra6lcjniSyMSgZxmsd0s/vMTM2qxCpKtgahXPmD3IjBBdVaQgAhE3G82
    6dzXgrLciDO9KYSE+2Wiw+kYlucP9mEtT2xCk149+tFIwRCDaL6PKaTb1XawwNbPJMPSdnj1iUyWiyZVFrZkmHDjIhYwMTJJF
    OFT87g0Hg4CUxm/W7Ij5AXBmVsfrTV/axwaGFZcKwoV87JGzJ69kanQtB9ud+uXSyPnm16sR7EvLnVtOz0XsKk4cf+nGjTe/W
    2qqR89oYCSG9y1yDDCn8lt/0zYjvSGrUHmnCcvtijltoBgQHpdmL4MIuWW2qrGqjaEApzHiXga+kMy5+j7zZqBP8TydAkXF96
    0rCS067mfKDilMlLWUoXrnqIK3ghr7At8/pigrRCmyT0O4g7RlGHXEhroyttlV1wjx9JEGKzGO3F7To2bwdXyt8kejF89JZ+C
    hu+C/kxLOIFyqp4zCqZ7bETlNLx0gmQbe/WbBlmvZhoydZIOFlyReaEs0yDVQRm02a8KnE0KXKrhu5Lin71BmX3oFmQZg2Tu7
    2NM4vCSz2V17CUPRFdeiWKCJdwyBDlmUquoG6eeZTJSsV4Md4bqiIBwSd3y11Vtz0kSIUVgNTkdJHDuMgK+NFn90eBDkNA7qN
    0oQRfoI7nKDBtsvkCcxk1Ng6iT2DR0jaSBFtfzGoylvK6h0mmZoXDggjao9XQLMqcHLL8anB3YCNI2yAquoOcma1O78CyI5I7
    /CHr3LoXDi932H7fXkS5BfzJ4K3JH7tZ9tAP46jBfCfj7I4vF/d9+Uhx4J4jd37FSeJlebJepVn4/caut19HqENVW6itTcGNP
    DAQwNsxlWdaJujepI3IYO9LnAGDJnMRbFcCP9dmcOE59aCmf84/06exEIZFC/1WKW5UGTfVYl692O7INnEWM2WKffJcg4E18b
    uI+K/NEPj5orNcPevfWSmtF8riXtuZJ+P+YNg8aBbfg5s3Xunpj/6EP8Xh9dcvkcXL0xCrUooBZ11LvqU8SIKEouH8wyUZW8W
    zcnOlXh9zddwxwJkJbdjb5orbyq606T24Vm+iRIU5CjM5QrHdOSQyfyISKvIR9jk22/2YnBHEVsFybkQkEiun7V5DnYP3d3Ly
    FT6W+KjfYSkPzi3vh2/427974Le/cJf9b2kqNRI/bXKYd7IwlQb61q58Wc43GTXQ7IGpnthf9M2rODAclhMUGUzFeqZOnMWvA
    hs8GlMuYzLXWc45Kabuvrz/Ns4M2zur0W2Fq0+5jTxX5MH7pV6dsZJQ2DMpF2aUotirR5RW8idS+kMCQp1iZiqAnmRbS5dx2y
    xU2QYizpCkSLKOba3wPBs97w9dTAUrRCcRvPwZ1zx5SRNxSXcyPxXHLg7mKbxGIxWNiRpJRYF27877/n6QOhVSwiBJpR8MSK7
    AeCoSnY9EYpKo11R8ghVUyYhRJ6dK2rKtXBajYmvHhHe86r3UztZtVrO1R9bUCphRjK1x63RqX8dOn3EJFlOpFd8ksUFFLWJa
    fznDg+08eTpid6YFZ+N+e6spYVebcnVnlqZSEhlTL+oeXMVB31vSFPPMDMvMUgW5JA/DZqjbWBIqoHctFg8083W32G8zvlVX2
    LPntztT22mheqiD5mwOAGJn9DyCk2u5MVpMZVj2jvJwCNR1raEpmo05klRctjh7Nn32zD/QZEsnE3qlehe3t8iMs9ruTu1bs0
    fnM/2xWZnsoy7+GS6nuBWmUnkoz+XOFVNRk4MPVXb2hNacp87/ACJOg8026wQbBck/miR0rMWJF7Xjs1MhMDAPtgpZGT9eSo5
    ELVybmmPSi891m3riNucfsh1oZgkswraAkr+6PHUZ1010h2Z2KkW+Y2oLW57KKLXVlWhrptiHoz4vT14WsXPEhjw253vPajlc
    IUWVbSvdambKC47nZKZg98JUwDjTtZMQZLYTLU0lZMNRlHrKkfq/X3/fbv2H9X9/+/GRwj+NG8m+8ChRue/ze6ZSC1NpnCUaj
    M5OVHUjtw/ro1NMHU4zU85uUa2a5dvUpaiBZc1GpKplu0B/Lk35M2RqIa9sGGQywREZremXhiTmVLShcP/eE9mKKcfu5rF0H5
    XOlOM6FX4rXALMR7pp30hk1buxiQN7gYlYRG7BHQjfXwJUIfRGxrUTuyJ0tvQCp1uqvHbJVjtY+4NR65hhoraVnrCozesDs4m
    DBqSoGWny1szErEuc98QbtBkbNDQjunOfrBV8P5CnnopM58fc2XSS0P9bmjqaiylzRnpy0R76DonugDuml3vXMnxTUrvdUch8
    En6A6uS03qRcvUzGqOSYMdyBVxhfA3VLDWYbLvIsWm3TY8oO2Tm1iotMaZYhlNircdGdU+vW1Z79NJlKNos7bRg8+tR4S4mJL
    CQBV7LIufAy0Y8Ue1iJo8RXuBZu7qWB9yOeFKZZ2FTawWAl12l7baUWEGHJRLEpLwmgUC+F3epsBRRFbhlP4W6KKV+yWJzCL2
    VMDVwBGeipadmhiB4APCAJWWfc7TaNWq4yWmxTO3sm3Xfr2VEXUxNmyi4HNMqJotFC8vZTihJzMNLAYnsaVjyHfR9hD6Yc+R9
    CLy655VJ3jH4DiwonLqOm/F7yZDNSvL1bxzIeDY8WOp83wgOimPB1u2P6AfM4KTZI24t6HunxIJ/cwSbEE1RjO+XopQCxgnYZ
    z6ezgGT1tM7N5NG+FIUR10sezp1q5mh2Cokn2ArLbVFn20bYJHHqrN5YVeTYSEGcfPU1VaT+1C97MzZBz/OkvvbKcQ8bOG2+u
    /2Z7qD3fJuXnZlKaWayhC7gwYwdUy9tHS32Mg/BpLx1IswnCkSpYc/F+JJGoGjfSqZIBb6lVpeJQiQII0HbFivg6zBPW6BLuV
    WPyli3O2cyvFHjzJRJooRojrHSpMfuveduO32+UpGihHnIBFNrsKN1Q7udllXqz6mESdOMh2tSSEmWXOJSA3LAFiBjd6uTr9v
    Z2Xr0KRUdlPOZoXdoyi4PLyvpFmTKfVITCnZyRpK9i6vuHa3ifKzbKkK7B6f8I52iOMwwalxKSeptaiavZuw69skpp3VnvSaR
    awpfrYEvWroDQZNfpzR8wsVxNN2ivs/7U3PCadUGbT4L8bitKhv3Ay1Thd1lZmp7i9NeuwD7JZ0rs1PLfwqw10zL1UrYOsQul
    FWLHXphOZ9oxRREkutoPAToM7Q1Em/Ooluea2tr35qZn5neKFpBGUYvk/YsUlRTE5uJl7Qv0YJIATv3FMMjanXF7SpTqQKmuF
    vs7lRTVjLtRusR2fbiP7FDbxDJQwne5C70VERtt6uPtXtB5Bk8A+cEYzwbA7clRq0kCG53TyRyYpRps7H2SdnqgeGkVmOy5Pz
    owYJHgGGjKrLrMrseLDU51MB+5HiJIjOWZnbOTMXIpeaV5HESvJO7YtZOWzNtyN1nJFIojnQ46uIKMvhdmcT3nvaaEGHrTOEt
    MuXaAoct96yI2Lv04f5Of9ApJPQW0suHDs2Z/WvtoiOPtrRSwBGGrYeQb2qTpxyxHK0oMGvyN0sGGQKhYf2SqcUmErdg7nLp7
    uAWapNcOZueHe2e8q6bVo/Jc2Bl0mEgGjjRwgwGLkDT9r78NnkBmY/HH1NnIzaPzMprvSgJpiWhcrMUWpps2WdM2nlWlb5aEn
    gMfGqmUJPOK0awnN/UZoGfzE3y/1o20CyoCMs4Ol1aeoMiI0xzaLKvlRBN9WVW5Ce6ojGB+8j8nA2qvK5KOlsC9FWR+MknLZo
    9PRG2ZEo8Te0hW/KVQwl0x45b797Km2fHlvXuFCwwErRun3nWwhfFVPB8NXYBJeSm8PlzLUcWIH9T/vvSFIbcVthW8+BgA9x4
    zYM23fNYwgc/Qu2/2DQ+uIba5favZN1nPAv1lv5idTrr0Vnn/R5ZCKICP3/vGuvI3/Ya+et5Vbq9+xeqRf8fvwcGgPaaHz79w
    UVyDIgFIfukvf+scy+Qb4B/XVd1vFd553d42VqAevCrrE/PmBfsr/aaYCN4eIoLIKuB//A7ZB0BnwOueZF8B6oxBzfCw+ka77
    IO/fHUK2STYG+8y3r4P2V1+0VWkj/rvfIeWQauTtXugzXgMqvR3yWnxEtTz4dK/WcSL8PD5IJ488NHcLeW5QCf9Mr+C14Zf53
    19WjPu7xrugNGKeuJy/x5ibXv/r303jsf/IiffpusBhe8Gu2xm2duvv7Rk+m3p6JCiFVcV1jJ5fVUbXWbquZSHdsbrDt6ldVk
    UXEXdUYv22eu2F8vTVVxqZ7qzM3LWXXSa/kn2Rq7pldVvaxqKq97Qo3fWfveo/7eCdZM6SpXbl5HdZc/w8OoAbNPPuHfe4PVY
    6enKtmiLahgi7a8fPM869/e8Jqth7MKspen/jrD530KdYP466MTba1W1ID5/c6zYuwtXZM9ecb+veaVXE+hCs7vp3q0c3aVa/
    Zd1bA96jViZ4I1x/vziaye7WXUIbZ3z5/B7nQG9WvpveuqB4QomtmDAtQMF5MQpk6iUHrxA78zHdXNJIVJByr5lSiCwXaHDc1
    zpci5fLMVzFv6re5glZxUDD46s6dtiRWyREvTAeOpzJxZvtNb+XRyp2kDYesV0npTId0ZgkhWIUy7SqhtpJ7g5wO6qPhhSlbm
    iZsmIjveKo9uKO/dKTJrLx0u4OkUKHFm+vCLS0V8vA0j0HmeCm3TF838tV2LU67qlOnfWd41nYVbmcrptM+7Ohg8WN8SQVz4F
    vrqG7Kd9+1ZzDVEQAfqOuZ+qfnpZAeO2cw7mkJ9zczkyWM7O5emRyVLv+HKnSlsQaet23BW6iIXYfEkaswreWwpLNlZnooaTl
    tfS+bo6vNHB8NuMxfZ2kLpWhfwTqzdGXsqBCOmrTVr1dGq12tlC4qcxX3ndDDDe8XFsGcy1fYwaTz6m5TQR/WKK8a6sZeqVqY
    cnn3TqaqlYjoVH8kAt16+SM37RMk7HeL8vGdebTbeb909aYnm1Iw2bYF6IE+DRRCIE7nV8u4UU2ulhZtpxsOpbW3KLw+xegfH
    ioMb4+HqRiZcjA9P+73Ed2WLR0CWDULNzIj71q7Z3NLSWMfjNgnHqkv7NGsygOZ9zAoQppeWpvDLGdRjPOzNMsbcuqTNLd5Pp
    OVkDk9VV/aTV5sFrNo0Be+b+T0ZJSA+33ouCoQVU0kVxo3a/ovqKvd8WkAvEZPTu9ny0aRpzalCKtSvg7wcl96faXhnRn94s8
    H965LIZpgGp6T7njmRexZNEqdltspEaxayL4imTOXZQh583LoDRbDkMuSUhyGL3LezEc0RVIzD9HrlVtooWRPZRl+TdqXelei
    MI2ZXJpmOvNMn2nLWjYh2Xpc6vbYGtqotDUjrWCCGcrru9O7pjVEk8MkvzMJk4cpmcaav9iW1aE+IwVue3oJykCNDoYOt+4eD
    rXK9DLZk12DOalAi+pqVfWCCiFbOXPn1PiChVR/xn8OIl9oztnln3egQ81JpVNqtilthVhi7bXNWfux2sE5O41mcCzTF+6dqq
    K3d0+gexXMTnC4vdgk0dpsFn9pEd86Yg59LWaW5qk2GORHHS2KVaYa6JbGvboocZBxHjGo6F4tpGA6WRqa5I+bDYlaciLuSyq
    DEDNsjVeKHOfgLm1uqR8WKJt3HGdJ0iKApsQA9E4wc5zO+qYvB//NtZ4YBXcnpoBW6mHFSnQ6Kj+daXhd8+KIzVp163mlMnOH
    nh8GR8j7JQM45bY6/e8VZmJz1JW9VYpX5fhArJVKR4NrCfePzzqFkTX2SXzkfLDTvB7HMtYxbxtr8CDhG8JUf8co/Ju3JqYx1
    6oWgynnOr+yXejE4c8TE8nx22Z+SGebpYFM5Hc1I/DBiQHo13j07RTrkzCfB/JOIwtKgeE+eclonp+R6mG+dDcqX1+PrJ4Lj5
    dWMAycooXCjP49W6b7ieHkrGv9C0JQ9GbxGp/iWaK9O8I5P8MpiDPt2EDqdCRKtl/n7j4OPKKd/EVvRT4MB5hn2jK78fNz3JO
    fhM2zne/j3FdJ5OcvQVafQwe+nog+fDWYqPdG5mD8/QGNwKbGBvcpLXY1BfNUntj/CtXje6EmfbM/wK4n56rUgO3o/aJQuR9e
    diud9lVRCL8Z3T8d1rsQYaW4kHrlXY9KeCkqiF4IF6EzGcvZWTGbd4nisoEQ/lVh0TsVqejh2g8ezUXgvGIHEL/SSUw/hw8/F
    iL8erESnYy084pfydfTtuOCL7Oe0n5xotwjvTDXphzHbg9fLryxun4vx4Zix3pOJNCy6Dh97zr+Ct0TZFFxe+PP1uNELsTWBR
    WrYNL+Ta2zsHk1nefhyzuU+SiBhptWnDe6ZpVtgGMVUXVmvXr7FKx55zei87eW81PyqHUIPtpmtYvo82X2LSTsT109+dTntsu
    9avCU3BPRy18wdGSj7ilts1RafRHNoX/Cxeyi2uF24ZJRr94EyCl3HsKqXGImFRhooAqr9QuC13sItnt8M4Bi53liidQnt2W6
    X8Ll76HtUw4QfVkFs0dwyAAu3xAqcA9ks02ZiV9jsTJuQe0ckDt/f+Toy9w92lslJU7TIywztDTje4swtEYO5YjqbX9LEbjW7
    bnHWl9L9PcO4eEsHCKfQmqrE6uTlmcU04ilzflSXmelwwQoKVzN8zeTjkv+hs9y5xaOaKYqptCouvPc/ZYUdnm+6o1orzQ6bV
    UFXolApbp88JFVw56sHcdA3Rxv2/jfRf9/cBnw1cw2zXwV0ucUPyTCwwHk0OS84vnBYWackaZPrDasGR8vH7cR9jtRIBuRUyQ
    iuyV7oD2QrdpblqrRYybzEkeNdTONBp2fXnj2+PnabeVhC8ENFmih5UXwo86NJOkLnP9PWgxbrKmbwqtzwzrTDv/suFtAyw1w
    2g/7cLcthR3P75Ei5joz/bLPrj/b811tM26X5W15oZ4ICZLexWbfd5n7DbVl+jB3oQaEUBGzxfY5r36LvURRL+uUWH2Tk4Yw0
    f1du2V8Sx7hErXf97LmfvW3/fetn7/7s2s+u/+zs/1fXtfVGdV3h54zEfziZKLKtemagRFWDxxMZmzRUSUCpUVL1oRrPjM3A2
    EPnjLGtqFKMgZKkhEQKJUJVQgoJjhuoA3EYCMZS+wfwG4/wUqn/onvd9l77wosvM+e6L2uvvda3vm/3HLABY8yc8iAPMNK9gx
    HwAUbg7yDXMUbYze/PMVMBkXzk+/XzHcz5e4++xbO/QIZg4BPexpzAl5hF2MJvKWNBjMrI+Yy//eN1BJ75lJkDd7B7HvMYkB3
    Y4uzEFmcFHuETXNo9xzy8xBoNOZgd5BteIzZb8/z8fruf8PttY74EmbLNGVt+e+DR2/is1D5bQXZk00X3FSce85KpuPZ5iHRz
    XFlF/OGnjV//oDIJa8DU9mSdz7/75D5w5tH1ntwCljK8g+Mmo7M+slx9F5DvTb7H+yPf3obkETyes2/ME5ylT4JndJx3fL9ed
    6bb12ItNpdPudxizdVQMmFZNVyj0MYhyI0tXTipqpYYCtAyXbO4ItePmvs52WEVUAwnUlUrhWDxN0UMEPRCfxIIHrE6CxxZ40
    iu7EaLgXlz2DmL0F+ClGjLGXxUne8u4BTGySzqntkhkJTsGYtY9pgb9hS8SAvUKlf9zCisOhJz5ib03BaAxNtTuGOKIo9jf+s
    gEpke6RdB9fpcSeaIQuh9sC11cECuXRBvZrw4AaJ5o9kbrc5prHcdxX7RWRAXwuCTXRE77vzNYsOYf/MDQiO1quehgepTgE0G
    GTSIbtoaoChRMVRlNPR4cbE/W/p1sVZwKE0LSDzdqndUWBLCWNSbWd7C6Hi42mWhO4RAH4nrIcZEl1PBowOCY5Ykl2gZ8CtvE
    JCgisZV3Sri7mbby8Va0LV7ClBq0yo1QZediDEoFgxvBgsqIBlnM4qjThqPyyxa9RxU5VvZyXYHkDU9oBIMXEfCGjX6dsRYPi
    QJwh093sUQVjbBirmi4GFfn3MCHfsuB1sLJ+qgXALsbifNg5hvWyVwsaDV5urzLbYfrpLHHPwuCUCxgpZoKGXiHBztdRGE9Rv
    zz8IMVAxrIhwBzCIqB9mREPGiqMAIFoXoFK2mysxukhuRLYeLj0tMTSCYAg5x3r01fRhTzCtSmmbbg2WlwMfC6GPul0IBMog8
    VBfGRAqJRSjLg1KJdiP3mL8wZspgbxJvqs91eR7vkYm8J3QLCoAfy7TQsxkzo5m2CB4tFNzlrbbZCkEhb/YuZjJzVwPBttDB0
    HgcKGeGTJvHH4bt0SU4HIgkYfAcZJ2oE5moUogpFJTJ30KUjWvXQKiYiCG1827HVsUgMlgXf0tA84jxiC3ZCVe5Ou3zNugvCh
    6F2AOo1sZeVEtgYz30PGLy2n1bVqCFeFlJxwwTVtgk0KItWqmAgiPorrX8pNREaKS9E2BVbIAoEuCeZWj3l7ol4/P2rDDj1CL
    L4QFSC1QJm/IBXK7X7jb9QoaMGsjfWDE/HuftOiseKaGQY1nmSVh2UZiwp+yHx1+HCFwcPRQvx6b2ODchb2E3JvWZHIgTzJ4s
    NMI2yH1A4uFjaldKG6WxE/VlM99nco4nVPaVXYpKqo2oM1Scu8LTWrs/6IKAlS8hEcl40djz0/WG2X4hihiWv9Zw8eX9k6rMb
    yh65toRpfuGIpqjaidIvtIvqw48KWupIt0wm+J6/4BZ0My6BXg0mYTR3C9EDlkeN5D2nog7J4tGnkNnisJjMQsdtWK0o1S8Zn
    x7eKxXKp2usctcPdlUA5QGpKsEFK8A2ew6K4qMQ3QSXR3WWOQE6kQ54d08ckM8Hmoo6s0VJFmgajQ/FQTrsPUvrKuaeQkV2us
    i5RhJqOKOvfri1JHJ6d8fPZRJV2jSHvpZrIUxKa+DMari4/3gZuORowF4OiHbXOxAVWlgXIyt8KueoF/fqPfM8zZ1RMc5VVw1
    Ta4y1NdKMODIMkh76WWbvfKTrRXECpgZw2+hRpraKXB95iwyTXRUDbEe4eSeZ5Hb7tdkYHVHtNCUo9Xbr6VAi96BcdJRyXVAr
    uKot6wf4BP6lY3CHOXqTmRRI+mw2T4TFQojVaa1QJ17oSvcqIDOm6LgMDZ8tCjVCOqjoN/rWRhjmo6eOdrX9B2+GAJRrV63xy
    Q+ZiHuLOZIIOEVX2L0Rauz0W7PDDUqEbbcN5OHJzjc9LoZKzPd7kmLDXBMGQs0cuo2dyt1184oY9lra15V7yPTVr8D8bMGKcZ
    S8tu8iYSPRqUvWFtYYdXJCuSM+D/S7yvVyFpkIicWsiDVrshOLN0nbGAWe84lmOwu0JA2bgJthmG0zBkvZzHnUrz8KIB9gbdj
    ziXENara8gcBnYsDGBBIYN5V5+hMaIYbgnrzRB0xNXaMYdzLCwgbJz9nAiLLeqo4YYnpxlwXDa1NzB8nYlJhKMd6RkZK2HDrF
    EQe0YeSWmxLC5xRharQGulKJakidYzE5ERq3gSIR3Z7OqqGpWN0dSrAaiBtCA1gMzx6SPELBIcCO/M2BXZa2WgjeDfQnF3C/J
    jxZWEwWf1566DbKXlu7ZJptTzgQjDzlPFOCqFysAuWFwhhmD0vD2rIzJZOQQJ5ZAa18OCYUw0l9G+3D8UfuahtCgUT8PMo3nf
    cJ/jVv0TcHe4z7b2BQWC5fOr4qQBrZ0ZfZGgLjh1TqI/qQM7VRRPBe10/Sguyjj7GHGtRmQjK+fHTusIB313gdUW6eXFkzNH4
    tIlftuVB7bCJcVHNNEUcl2lhSIa41faOZUEyyucnwXGIKyzu9SrLJYgIq5twP2bRdl5/S1E0m36wf5DNxOc51UZOl8ef7X70+
    GfALqNeGOmUhZ/cIBUwRJKfh/guK7s9CFTYRNWOY5z+J7uXOKp6lxXeIK4Kcd0d/J8jw49/wDN3CFWOeOqH+BdFeTfN/Sgaew
    9R5RxjRoQ347r57hRR/hl1/UjXjO4OuO8H/BbB80BMGSO42xwx/uvuJ4g8P4e4+QHHekHZ7geOJm8j+nsbNdq28P70pnAM4fD
    lkwf0FqzSBnf/FI9/gJpy26Dyh/nWiwIY2JSE7AXMqK5ibvoOZnspv2wBDEp3jCWczskp30q69r6k1y9KtppSul8rratvFRKA
    8t1agUvQEfC5nAV556v491eM4mAtIUJcXFXJ3zMq7b6Oz7Cq1H8eqfeyaBn7FgO5zmd4yh3RPlsXcMim4Ao+wOtvct6csQSEq
    yFZnFsCEXkor3kBT9FnUcuoduY23JBTlAqPwxhclHy6BlfsKOTGhjTyh9IR9xU+R7WhA5BYLIGGgjySrhc0gkPj/N1BCDzNu1
    WFQvlJIWeuS4vtSO/cE1CEAhd5SI+LooG1gX/sIMLkEes3uac9I2p6hB656kNT7sjBN/HEM+5N3b02pEcu41m3GaDCYnw0wG5
    Km9wWBS5quhsisyWabnz3297oZT27C9iSHyBwhWAMHwsoiETu6Hn+ptr/vDzeX2Q823b+nnEpDlb0UEbvukyfdZGgsmNMUDfu
    E+qmddXOW+46BA7hebEuM84Kb63jE/5LicGhYiD8e9teJ84jebUpriJlzRy1jtUcG7aqQdSM4Jj75ve/PHUe94noNIX5oe+4T
    uQCZqh+xCwVXRlqWtZRsYifRzSO1Cd3Mdt11mamvsfnWoVqDtbxuRneC4/dkr/UhlJCMEv7y93eXGXfq6++WllGEh/YI4RBId
    z2wrdjmU0FRFEYYW1S+hxFYG8R1u/xYnd2tqgp7ZjGbwzkNiBVL6B/47FEAaXspaA+BNxAnbLiHI71sl4qpgR8+GQt6MEfFap
    RPqZSOfR2MdM3XALSkmbr2DuHJ6HEdAG9Jb7hCeN10yUOhIln1BgPcip5w0Z1MhuP03RWfNss9u7i/bjnkPGN467NwAsNIlqS
    qMB2p0BUJdG3ceAJWwI7mZJCr9UKS1Ea5LUg9YaxFcz1e9fKoh3rgTjeUsBooafu0a/GIaksHSsJwOwqMCMn++MbX8qTkCBWB
    6/gHPnCMp/CwIXsvYC/LseWhg6fCcLVPmQZTlbkSzJEsyiXuM/WmWBEzkyEuRnQ8+aggNlLzwGiJZoI7XkBVaktzESj3mzNU1
    yCkCO5iiQJqkfvKvnxy2bQ8Cbi4Mrh5nC7OUJMcicEmA1bYtlmCLXXyBgzznh9G7voBa+fKUZWiyPGglVuuSoXhomj8AVzYGh
    NB05dexlw+hlbjranBkFhxYArjOgGoOzZE36AVBzs/hfm+kCsOFWeLMfjvkQ8DMIFAYGNUS1NJuweblfYVOXWQdmQSphJqJMr
    xCD/J/HHLA5AzrdzX56tO2t5qkaz47wpzOPo5qQxY/Mz7bq6WGvZDEgmReHilMWc1AlUu3Eg0Mv+QrjGD9rVZ2dBdKGvXgix5
    9zGPK1c8E4xxEUhcAmswHGH4RILTQ115JnmsnB2t60lA3hyH5Hc5VJrxrxzC5lF6pBs7PVd0SKtdhADskk3wBlJXNFmW4UEwb
    JcvM6RXfXIDGXSCkDMCq+HydtmP+z6i9gfdIlTHe1Oo36qLoIkjgVNB269IQelKTTkZhd7OE6VHXPtRSoGUN8hchbOlEIIbMW
    0wRwQwBGxWdxBVT819F7p2ETp1PGVnNAOVqQGcIBmSQUTJqPPxqYa8EUD0HbD8houOYpmABsecSP0jjmzctg4F9ecWY8GVHl0
    +IcCkSB11UOOKZgmmM7AfmyAtmAPiCKgXV7ef+jl/ZM8xsw/xZGRsTAiBSukR1IoMWwzrP4Y1D2G+FqAWQZGGqGXcZ7tvRLwy
    E6ZmTQ8AkZ7uj1v/sriEEzRW1bYs3AekvN5goJcVKWz76BcI6SqldnF9lyOG1Jt4JfOMt7YwnFUFi/hMnGEXtunvjhI+s5Mze
    q7IqCstzSNHMN1WK5XeOhN2tJI7AGtdyeGxwPf8o187g4u6glwzkxbMderzyP+xSIgtMCRgJfs9RzawiusleMSK3a8fP6pWE0
    4NGo5sj6ql7/go6mVg576Va0KL6qHsDDK6RGITl1QiR3irbE+N4szycXEupnw3orUl32vL/OE57enED9fLTXw2RiIIB3oj40l
    Fg3HGOYEU6xylaiTtEHMgGUbNAabMP8ewCrIfFbhp6cmwXkxeh+f/VhNvdPddnN478hY0WMct6XO8VbN5Ryc6a4lXG4ff0h/B
    RXqCC4hDBRqjhLnHbyvYraSyVCNg8wNzmrDytFpz2Lzjno6iAJGiU1Y5jgo4ThyD5rtUx0iFrUMNrnj9XHviwMjwL9liTbg5H
    UuPg7mFxPuo6d2pVw3T66LOL6iHR1JqWG22/6lpZtElcKM4H6YWTE+7kkaiW5sNUUsgu2XBZ2JIBK3qdXqUcdxXsvbHgUF0gg
    lwD49DTgioEFuATtSTp7dKch3WqarYbtBdnsI1VY2I+pYsJ1/lOiiWpbYQCIGh0AJCByCZyP5Mh8OgSMSZYEcvlKpU6G/stTO
    AUuH2XSchlKeDPYluLlfeEnzkvTDWphTbDfp/fiF4B+bdbRZNbVAQId0583IVY6XJ5fIPTCbsC+Ix2RZKMYHIZn+4tzifzbyb
    Jhy64sjwoeze+Xx9u4qZjs2MYcQfPb4GmYNVpEjiHIj98PcBSHMzTlnMQvwUPIp5nqSBXE5hG3iDJLsA3DrxOcyVj787BplUc
    x1AcM+sBh9yodsWVae+Hqf0PPCEzuuHXN/YgfaxM+QD0f4TTDm9z0qr5/n+NqPHClcU9jxM/TZk1vwmb9GHZt+HWxJTt6XMZS
    qFsYv3WU5Vs/qyGhCWpPxbAjHmhj7yOyARxVEsig6lKf8rGJqMVAYcWeSrDdSUO4ITrdw+lVTTop86Xk4ripEmMCMxxX5jHDh
    DDjI242T3io3LJ6tcmz/rAhDxdMpZkfRdR/K9b4qy1IOeehoozcfLdNUkuItXfQrtO3qyODnS8D7CdPxfTOVS1y2VUj5uERaU
    /PJa2jxCsIRcmhBHxu4FIXqi6XSH3wCj4l2D56kVki0SMozXXo6uPZ0cOfp4Dv4ef/s08GVp4N/PFv75tnap8/Wrj1bu/Js7f
    qztavP1r74763r//vn57bk/P6q+W9E8mKbkrygLMPXGLf/kFNgnOiRrA1XXF6UdJutKg0yODY9YZMCtgp1Q4pAB5yFhLMuu0J
    RVztsK4tt8ewVlb4JEoIfSxH0juSwvpTHOyf1pJsqyWirhm2+cl0KfnXiZjUqzb7MFaacFNP5rKBM+4YU817konVuk3Wsn92R
    rzYkQXZZjtyRlN9X6nRqnzP4zPrDDane9avg+Wk3VRbyhsoQ2X6ns67LibelVc3dv/aES+0uOEYTAv5AuRGqLC0a9vCLdyehB
    wFkK+o2Un+DBivcX6ZW/WIttIE0XRJx+eX5jjrWGbOAXkqsp+KkUbsZswokfKiUP1yphSEN2tWU05Zb7TjdpNeG1FnXGH8J5j
    PYhnI1qLLuaotXqlTe3T9ZqUxNT2XvvTH91pvZvvLezN90SUQm2PAwVZZ5XOZpwq0b1EiYhip4q6ec4iIZvzWN/jtu9FQ75gf
    nUvu/LGgs3tHiXYaC3hyKY1AIIPKvwP2aJZes8aFfJDJQ1eSSWYBEz2jWB+ZOePVRTL2pqi9VjubXkcs4S5r+9ATwlzPrIKQi
    Rabne+16ibrAvHlv0WyU/n2vSm0fzoPO+N4xqkNX7tH7auOPQ/tABsxIyYF6/IUXUvG0eh8U5MMnqSWX/+RbpNfVVrIZxnvJ2
    7XGU86K9sab3exgzzjpnRHFtThA3kbC8txBTBD4yD85/I7HO3lHqjGx9vIusUcqTFPiCuZTuMIl4ocEhA/VnvrWMzt67OCbhy
    ez4kK/NB0QGUD3xTGVSfgeojEMO9P5VbLExhAu5Lrt0+Zg2vxLtnNfqe9dULm20+/wIZWEh2xm45iugFRLC4aK+m+bSVamupW
    DCH9N2o+F+ok8HrPmSnY7O1JGPDwP3tiHxRNwDMdrTRx1xK9TkS6zu1Wrgnbqq+nVIo5a4UOpNURT7iUwAThL0pYyjo5gI9fL
    yc1KslnnW8fTr8kKUeFo0eMEh8kr5b37sml/9bcJx+fcs/qc7ilm6RUs8fKY9hxPtmF/eChLrwvPaa9iM+3E5IAM7iTgEPH70
    9yopt0TyCcnv8C5VI5bOprLPPMDN8Iujs/pwsJzmrOastPwXs9pthqiMy8pC8XWizCYUjvPu36HfBwwitLWoQP6Em3lDiIa7X
    UEazYQd9V665cF7XVFwcoGPsbtY8UKQ979TQVcsoi8HUXws8PXTLjztHG5jBRThNvaFKzWV6l9xoa/E7ooJE+PEPk18L17xo7
    9HwAA"

def dictionary : ByteArray :=
  (Inflate.all.runOn (ofDigits (packedWords.toList.filter (!·.isWhitespace)))).2.written

def wordWidths : List Nat :=
  [10, 10, 11, 11, 10, 10, 10, 10, 10, 9, 9, 8, 7, 7, 8, 7, 7, 6, 6, 5, 5]

inductive Change
  | same
  | dropLast (n : Nat)
  | dropFirst (n : Nat)
  | capital
  | capitals
  deriving DecidableEq, Repr

/-- A change of a word, between what is put before and after it. -/
structure Transform where
  before : String
  change : Change
  after : String
  deriving DecidableEq, Repr

def transforms : Array Transform := #[
  ⟨"", .same, ""⟩, ⟨"", .same, " "⟩, ⟨" ", .same, " "⟩, ⟨"", .dropFirst 1, ""⟩,
    ⟨"", .capital, " "⟩, ⟨"", .same, " the "⟩, ⟨" ", .same, ""⟩, ⟨"s ", .same, " "⟩,
    ⟨"", .same, " of "⟩, ⟨"", .capital, ""⟩, ⟨"", .same, " and "⟩, ⟨"", .dropFirst 2, ""⟩,
    ⟨"", .dropLast 1, ""⟩, ⟨", ", .same, " "⟩, ⟨"", .same, ", "⟩, ⟨" ", .capital, " "⟩,
    ⟨"", .same, " in "⟩, ⟨"", .same, " to "⟩, ⟨"e ", .same, " "⟩, ⟨"", .same, "\""⟩,
    ⟨"", .same, "."⟩, ⟨"", .same, "\">"⟩, ⟨"", .same, "\n"⟩, ⟨"", .dropLast 3, ""⟩,
    ⟨"", .same, "]"⟩, ⟨"", .same, " for "⟩, ⟨"", .dropFirst 3, ""⟩, ⟨"", .dropLast 2, ""⟩,
    ⟨"", .same, " a "⟩, ⟨"", .same, " that "⟩, ⟨" ", .capital, ""⟩, ⟨"", .same, ". "⟩,
    ⟨".", .same, ""⟩, ⟨" ", .same, ", "⟩, ⟨"", .dropFirst 4, ""⟩, ⟨"", .same, " with "⟩,
    ⟨"", .same, "'"⟩, ⟨"", .same, " from "⟩, ⟨"", .same, " by "⟩, ⟨"", .dropFirst 5, ""⟩,
    ⟨"", .dropFirst 6, ""⟩, ⟨" the ", .same, ""⟩, ⟨"", .dropLast 4, ""⟩, ⟨"", .same, ". The "⟩,
    ⟨"", .capitals, ""⟩, ⟨"", .same, " on "⟩, ⟨"", .same, " as "⟩, ⟨"", .same, " is "⟩,
    ⟨"", .dropLast 7, ""⟩, ⟨"", .dropLast 1, "ing "⟩, ⟨"", .same, "\n\t"⟩, ⟨"", .same, ":"⟩,
    ⟨" ", .same, ". "⟩, ⟨"", .same, "ed "⟩, ⟨"", .dropFirst 9, ""⟩, ⟨"", .dropFirst 7, ""⟩,
    ⟨"", .dropLast 6, ""⟩, ⟨"", .same, "("⟩, ⟨"", .capital, ", "⟩, ⟨"", .dropLast 8, ""⟩,
    ⟨"", .same, " at "⟩, ⟨"", .same, "ly "⟩, ⟨" the ", .same, " of "⟩, ⟨"", .dropLast 5, ""⟩,
    ⟨"", .dropLast 9, ""⟩, ⟨" ", .capital, ", "⟩, ⟨"", .capital, "\""⟩, ⟨".", .same, "("⟩,
    ⟨"", .capitals, " "⟩, ⟨"", .capital, "\">"⟩, ⟨"", .same, "=\""⟩, ⟨" ", .same, "."⟩,
    ⟨".com/", .same, ""⟩, ⟨" the ", .same, " of the "⟩, ⟨"", .capital, "'"⟩, ⟨"", .same, ". This "⟩,
    ⟨"", .same, ","⟩, ⟨".", .same, " "⟩, ⟨"", .capital, "("⟩, ⟨"", .capital, "."⟩,
    ⟨"", .same, " not "⟩, ⟨" ", .same, "=\""⟩, ⟨"", .same, "er "⟩, ⟨" ", .capitals, " "⟩,
    ⟨"", .same, "al "⟩, ⟨" ", .capitals, ""⟩, ⟨"", .same, "='"⟩, ⟨"", .capitals, "\""⟩,
    ⟨"", .capital, ". "⟩, ⟨" ", .same, "("⟩, ⟨"", .same, "ful "⟩, ⟨" ", .capital, ". "⟩,
    ⟨"", .same, "ive "⟩, ⟨"", .same, "less "⟩, ⟨"", .capitals, "'"⟩, ⟨"", .same, "est "⟩,
    ⟨" ", .capital, "."⟩, ⟨"", .capitals, "\">"⟩, ⟨" ", .same, "='"⟩, ⟨"", .capital, ","⟩,
    ⟨"", .same, "ize "⟩, ⟨"", .capitals, "."⟩, ⟨"\u00a0", .same, ""⟩, ⟨" ", .same, ","⟩,
    ⟨"", .capital, "=\""⟩, ⟨"", .capitals, "=\""⟩, ⟨"", .same, "ous "⟩, ⟨"", .capitals, ", "⟩,
    ⟨"", .capital, "='"⟩, ⟨" ", .capital, ","⟩, ⟨" ", .capitals, "=\""⟩, ⟨" ", .capitals, ", "⟩,
    ⟨"", .capitals, ","⟩, ⟨"", .capitals, "("⟩, ⟨"", .capitals, ". "⟩, ⟨" ", .capitals, "."⟩,
    ⟨"", .capitals, "='"⟩, ⟨" ", .capitals, ". "⟩, ⟨" ", .capital, "=\""⟩, ⟨" ", .capitals, "='"⟩,
    ⟨" ", .capital, "='"⟩]

/-- Bytes with at most so many of their first characters in upper case; of a character of several
bytes one is turned. -/
def raised : Nat → List UInt8 → List UInt8
  | n + 1, a :: rest =>
    let (size, turned) :=
      if a < 0xc0 then (1, [if 97 ≤ a ∧ a ≤ 122 then a ^^^ 32 else a])
      else if a < 0xe0 then (2, a :: (rest.take 1).map (· ^^^ 32))
      else (3, a :: rest.take 1 ++ ((rest.drop 1).take 1).map (· ^^^ 5))
    turned ++ raised n ((a :: rest).drop size)
  | _, bytes => bytes

def Change.apply (word : List UInt8) : Change → List UInt8
  | same => word
  | dropLast n => word.take (word.length - n)
  | dropFirst n => word.drop n
  | capital => raised 1 word
  | capitals => raised word.length word

def Transform.apply (t : Transform) (word : List UInt8) : List UInt8 :=
  t.before.toUTF8.toList ++ t.change.apply word ++ t.after.toUTF8.toList

/-- The word of a length and a number, the high bits of which say how it is changed. -/
def word? (length number : Nat) : Option (List UInt8) := do
  if length < 4 then failure
  let width ← wordWidths[length - 4]?
  let transform ← transforms[number / Nat.pow 2 width]?
  let shorter := (wordWidths.take (length - 4)).zipIdx.map fun (w, n) => (n + 4) * Nat.pow 2 w
  let start := shorter.foldl (· + ·) 0 + number % Nat.pow 2 width * length
  pure (transform.apply (dictionary.extract start (start + length)).toList)

end Matchday.Compression.Brotli
