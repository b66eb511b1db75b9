/-!
# Packed names of characters

The names of all characters in the order of their code points, and then further names: those of control
characters, and second names that put the first one right or shorten it.
-/

namespace SourceTidy.Text

def packedNames : String := "
%g%ug3eI#UJC>+jq7n5*4p%O`#SWFiW2I6`+0phXu#WaWe?W7%;R'@#;+Tkk9WlZ6jo8fuq&v2)`t;?CXFdY1Mda%DroR5fCOP2/
2Za%SQ|1WW0Hqy0+|5vG[*54M6]^vRxH>ve*$oCW:0=51~8,<N?./lmh5&9~pBt*k2/9WRqDCIc:?6>(Sl5~.|BY,8;AAHiDuEC?
l,2jYNOU+$WRiHK]?uW(wNVyQ;f@%ljB>q'2Dl'sXKsCY|&Oi?'@?=OnL(Jj%*KKyCDWxuY8u+c/ceeq)/^4)I1EVMkp>k/i]eV]
xRBxI9PO9Dg)8E)QLcbZdhON+5.RKRDKKEakHHRH/6r!V4s#Wtmw2h[g1jV9_pS'2H~p9R)]?xS_uJ'(X#`1?lnh>iZ^p!;'L~0R
S,4~;v5ceI8>C?AiMh]&WTv>b@<3|:a);su;PG)#5RM].&cECA3qOItsdM6MMO)osv)N?b~8)DMUmRP=ZM;2s/[m<A)IL<K,#W:0
d/+)74r!N*URv:xs8+:fAvQo!9x)n~`ehxc|j*o*M>Oc+6~1qk0kFM|*T|]$WW%'<0zi=A:av+r[YVT,i&Svlm$EaKD&d!ri=^W$
f~,>yrj6+k3/lt6FlzgFh~!.ns5E_SbtQJ%G!NFO&q4I;~z@rQ5_?w8p=*|N(5z<nOV1`Uq%*9P$b/cXw8I_#!9Q(;Hb'ZUQ6*k,
aIw=X9v]A#U1kYToDs/6^J_LV.oT5PH*aC,uOIpgKaPwG;2I]I!mKzc8;nML<#k;f(>MH~A>MO7WzY1KjIQn[ou'+,O<:;'LFn)k
f+Y!?]+]I6gk*NZ:Jc#8wcDByL<?vZ/8uh,#mUMzw)4W8I1Un>pBHn(](pR%;]~m$O=1p|ej?Q?$TS$aT=ag:F8Htn0,/A;J8d4W
Vb2FkUwJhb<U<F3DI6/_F(ht2On'7SFJ~^r^jUn_]P;V~=wWcE3)6?u)bqTgdQUZ`KUXQ`,0rA^3LRqkV'r!Xj@~oFp3~nF#Mx54
D>4msldggl$sYhR.|y*8?$L,=4M5cA;kFg9exc`s^(.NWH*0&,$y@U.m~~IB4!(xy<U72:p$wRW:t/KTpcFU>;oDTe%F,TJpGRQ+
'q0;D|eS'$s3bGotL;E^hx`Cf4ri6#8<>xs_vBx#G*)iKaqPw@cb|$'?/dqW5/xI'k.zP%14h80hR?SHX9AXGP&gbX*JZEc|S]Ey
hMTQZdRuI1M.|aNQ'A^R'[4J5av3Bv3bu4]~pgi=!s>&v~ayLsfJN4(0],|pNYei)kEez.Xr3Wiejr9VCXPu@>hcGKSd=OVaQyv
s/QO2d>7K$u.Sa5o_Lw)jP`K>HY,Lc9YtN=A#l7K#5/Cw25u8]w0?BahAj_2mG5=]Q$Hs7vr&,QCL%Qw7WPiD:Sd(g,BA$ifIb%k
H;=)+!VevW37+=jLbVbfWaUZ1;HzDIvrFuLje^t2yY?VZr2Z>ea)`2~^c?9.F(,y7YK2%Uh+$z&A?Lh6:wjL8+:AtuI|e;e+e(Q_
~HIC>s>[!2chVG+NU6kS/8:Fk_7~C]IyHkZ)~js'>[x2t*(YoEJsz'_9c5?xc&XVAw'8~.@Ve@/R0Ta!D)*Qm#*?UVRuXn1:q~+J
*yk70/Vx|HV,ino&&A)jdA$SPWh4i$0vEsrz4O[_u~1ZS=F@+2U0#KOf$%C[jr8tq+yjrCJ`#hwXwQ%5MLoh9s)pL[4?R@7)m[F&
=@%w6F]pp!LI&f!W0wZ35wB,J0c#Zg45/EG^RQWW,shcPpI@!c;)!h:;*_JEc%OeERN%$pE^B/HdIU*=.6K=#z;Jmc`RzW0/%@!n
wdOf!3t+7Yw(@,3E06@7jk[Hyp/y4l?!az`:V%cXq/Z)&R~%^.nLIdaAHl,dLnhf=sA'X&z:/x=7']2>?T%E;Hy&Bu^qQGhq`;|Y
N?L=H+BQb(VfG3rpmiV>>g29o6vdcP.@=OtP;lY_2kOc'_C%g;qqDVq$|.2.a!N6|pPEh6][!K2h5Jj3dNmfH%,GI2D%Ho.Q|)$N
=TimJ~XZZ~7_H=8`PR9X%xGcU_2`<3)FY9sjl!4z0|vc*d/|Xue)|`etZc4dIa?*$P;~X4s_(=^X,kvyKY4Oi4F#9xCt_cUCK^MM
[,8VnD@n,l[O6wD)soRR*M(lg@[d/&P_w8X)/Lxl;dE/ynnpiU`RLI_jvZ/Q7C)+eTO;!9.=D&e8`V?Jm6FEyIf$q#j]hGnutOHI
|!x0b7&iSk'YQ/S;]6l:=&vs&p]R'+EWMjb.A>ZjN3]XtXO55,SyPa73h:z4Hx$?6JTXS2G:Vet2but#u34/qi9)0`mzyR4nIhMS
gSF3q1^SF)lcu_,D']Uz5Z=1ek?RiSHBBX&uy12d53o6>=rz[YG$waA0HTq`.Ng!E3J.M3A.)GFJ#])e<eP[Wn5&uHsc48dAqH<
j@2pG.qQ9HM!(3=M;$ugD=m3L:kza@cZFsk;<c|%5/S~JyKPx'7t/K~.4Br=adD%7EgT_`]BQl05fL_Ch1qdZH(MjWCLBy[^H#g2
B?7zfLZ1!#c4yt+zl5jn67A[gv@TuRgtE<%+w4x[8D`^gpP97u=>j_25QRK$eUz`WS+9^g:5!4w^Jr~?>_T24yid%PHs[kxwV?us
yw8Y[xbU1FX@s*LM|L>,PxJ@50cKA42Q/^##)kfuo=H.OfFKa|m^LkwmWesCKOX0N0?~CW+dL/Q/(,x5iwL|t&i#Uzjplmn9r]~@
qL2VOO8B/zc$Gf^fJkRh`3gaPd=$z2siVI+z>v9rp(k@a~ra2lM2?+|m*=obEXG@:.:Wh:ic~Y7?.L(][qd#8bmUazJg|CjY&;$l
G3i9sBwb+C]0eS&o[@_y6p]Bx9(414AxRa^6ZMXg<pT&=<RI<9<Ke@ks^9&2:n%Kq24:!3=m3UQKVHd(m%'`RMq,C*SA+4OO=T!<
bB[_VLj62Q1(?s!&e4CuG3#jR^f=K?X':V>sLRWz[=W<<HI~'Ru;!<PS36+Vx6A.<f&7%0akGuL_Swl6Y0hLQB;^:wrb8mhP[27,
0b[(;.r|'i3Vg7>fZA[w|<'H:YGm^eW^$i?&~8$f_2=(PJQuBSX9Y~o~S?eeA)3g='vtkhY*g?|17UqfI;iFFC|+k.?*7W)^1XLS
G6_]S[a/d=q<QHyXB;B)3l%V|2UDRZ)K[!B=)=8tq.bR3_Or@|>)Vbc9>+'mwPG`;&&~BOK3==)),rZk8CSO53:q5CwQ>z(N*En0
MvrFdGF.qi[j1r;7$Y$T/][:H!FPsOT`gGR($3u[nsyLLRuSk7`,2f'z.3j(En5!pJ_b0Xp3!hr7nA^K@KHZ8M4+##i_a^Wk`_!R
lvY+'!O,vhxte[DAJ3Rvksx)31.JnIRxfh=9z^V^?=/>]>jYmf[X?X9U!>/@r54mLk#g+N$5Q^H*%aIieAqOfjsZG8Zfub'mh8w$
I*XczTh_hqU6eMN#:$cCffq~$H`8lcz@S;%9Rw%TSkuGn<NjHTPE,hZ4`38|yE=v(%CA.YO4%!(np.*Ztt2M8Ii6%>C1BQ`Ho:oU
^2xxa~JBcXEuArw~HHzcW'Cvf:OQU%Nfb4cfw8t)~Iv+<_[l^Z0(juL5bXZVrD>:qbUA2r&.CJ~bYD?=lYLQW3panAn;u`d6V_N6
^Im6RK'~g$!K)k^9_5_VTdm/rSFNwGdX9Wg;;:W6)Ojjj!4?r$Yx1M&I+%`qR;f|tF(~Uw[*7QY:s*Q$o>SNaMv/Wv@WJk!sEf[z
vsSFiy<M](VT92~.UNgTky3dNp`I9m=qlh9Yf#Xu=d[if?Q$a$`k;%'u^t!Pl_k(lsW,Dkt;/By~Nw:fk#(%CWI)nsx7?x;0)i'Q
5gTDX$A,F'QqmsaQx1txE[FL#Y;N0UCA$j`=@*^F.$G<7'WE*HIi#iXpJ%2I/M&[@U6Lw($@_^n[nnq!SV5(+;Y+D[&bR/KSzT3y
3lk#[ob#Ut8>o'DA0h4HbdN=g>4=lO|hqB*fqFSAzGJ<%&2O3b_/z1Eg.pJfmHE6S<oim#mX5m*O8rwSVX`kA2)a6=ZD#+vku#aP
7oq>Zv,g_vhvmt3xeDTj_5$St4p)^S!VOiyE<&2>$Ty3K/hV%`I'4w*rPKg<<YY|x/JrkQNlh?L,Q1]3|>GtEs*/JAzaE.=;Go5f
7WJpH=nq#CGFka)|eCP.UFTrN`Ygx+<L6@D_t?C!Y+lngdAiA)=CGN+pJy<7)g=Ta1W)[O,>_b`v+*oTkpXNJ<4]`TkC6T&|14N*
ZNgmbppvoUHAqR'OG+6vPk!Vr7jU,p9bl78*:6@mG!D%kWP=9/_Axyi_XP@v~T~SKWdu!,@J$(N<TmJLQOD$sXA?eGjs$*HN)#p:
+z46vfQ?#(RVv&wO>k)[W[j5~p:>@U4CsR:l0R4z$,I`5`pfh4>!1se.|.y]T72r]^ycW>q<!?n2pyMiqY>NdLX(apU=K,hId$f;
Tg.WqU,13^6GzF#51X#.jQ'w]y)h.;r3RG=8]y.E'I#YG4(uT.p|1g|~h?b]/v8mJ(y5Ac6uBuQ'Q/#ov=:~4)Ut'Omm,7BF3JGW
5=Y!9Rh9fdl=VoJDhxo~FjMpk<=as&.N1UMcGrKo@Q1sN3saL2$wPe'M88kUQ#uoUuWXoNCor;mM:j9C|Lp~)D_4sTLQWee])nnk
ja15~U5:ux(MYJ[RKG4[j~E`G#TD)Zz?As7sC++Sf=O!SWF.'A`:rqam>P^I<nWM[JNq!gti]9@|kNnCxJd/XP]VrFFg$r*;i]wt
:r!>/Y9ju*QjTke(at+GFlni:`w9Ni$|@8v]Bh*7gD^Dpz'/m/4!drm`#SAtj0aP*xDxz&0d6V6yT$Vki623#<MRI;r/HV8)oc5$
9KTP`g10%~$(^:Gyc%~qt!=~]R<y_~f8Um2yqueZv$rGQ`O<Uh>Jh!Pk8lKc1<I49l1Z/AfpN!Nb!=',n>[eiHH`<$m%e)U95[Q:
`k^!OA`a0GUGeT8~f^furIS%CA(V&P)k4Bq'oUV.xLw=P'']tYt5Xe1GB=*'[yLtLYOha2^/_H8#)G0@bv]5YqKTp^HdS[I[Q:8g
`t]J)[59n+JF>N&0gsyrvJ&m(+rp`84+UZY/lAyl_;F%ApZY'CB`HP,0RW6X+'4g[AakNYt0Rc4u?D0XcE#i,Ikdz?p0VHb|RUD~
%)M%a_5#G)nFnrtg6mE,be?ITeE!vvA|*u<D~<POajMy^FtzYy]!UmqD772U2>q18=vP|m%G74P9:OZ*t;@YNayHo959BF~y<i]l
A$X7E^>$il>zlZjIQpU~z(BpV4g^,$uud$<5,Y95Q[;NgZ_[57CnQPu=g,,P<!CVYrFMhC.3.~(@og=sHu(eBbEudcYLa@mT]$(r
!R80h+5)=im?eF@uYr5SBbBZY[@aF^:_IB*^K9]+O^+eA)a5K`VOP*U][<QsE8GDySQ/_faxz@mT`Cb%%*J/Yx$xGn`.klhPyj$v
.uRj]muFr10ObeA;*v)8g~M>BhnzS;3tZ5g.+QRe5T4C,R[wewMs?R6C~[U(dwm*n/;ZU!,r9_YSdieLu=&P?3);=be!V@ONH^kW
Y9FWwKByE3w.^[H~phMTBLsWi:?AO%VaeuaDU8hgJVL&N_Ip/,vnuaLN7^KNqbSWZEN?7yOiW5P~Yq31Y6|cJON_BU2TUfQUuNI'
5`/td2/#R4T4Ra@Q.[34B~KNsq%cYz<hNgE54nAqCs&r.rqXETS9'#2imSz5;d1/|bD9vT`NFdZ5+x)jcTG:V1%5e]Z;S]]6mdMw
D'6|]xCrEw<6Clsw]L:<NS)a~QP#sW[B|hRmXxkj.kt7Y#zsFWjxCvgb!h&7`_;%W^Gzm*N_EuZ7Vk(v&9s@H<?3c=FT1nk5A~sh
<B6mR2@;qK*rcvAB8XWK#G&CZ+Biz$keKFrq'k^/PeKFfA/!w%PNh^M#FR2gNoC,wDqq@MqX3G>>7O9WhL:/*2XtGBQsh>hO(<XN
~oST1:<sJZ%Q$MV;BORoK4c+X%AJD^3FblwT.E`h(p[iHQ$wDg'(rTGbjL3OKUIF2)~2ksAnmkArC$8hfXz<+8u(q['WfIP8/+(r
eijl5TcPBDwwuFS`|[2=fP[~<HoFgKo^ToG;wV8Y?Lu!*(?*2F(sWZs7Y~'4axF7/WWh5Y]#:[/Rv84zt;hD?(#SR=LwR9%%<^s>
Ptm|K4jrH[]y>Fa;3wuKjC;7+;R?g~#d<g9JM[Zlby5&,*LkM6R%QQ^m33=u/T)/JA_GZ|;Vn5g+~UI_7qlKSHB`ocq,t,%e.9tG
(w,MrR.72BgL'UtpAtj,.tY/_]p6;yDqg|)?f;$fXrDgUD$xK.3V_ieuZ)eq_,SL^w:~k%^Dtg*p<!]j'53X/xGshGd43Bb+SJaj
u:|UrSZM0^<[C$D)68KD8C:CXCbe)TuXq:T*^r]M[Ht&S$nIrR~nY#%Q^COK#;#mQ%KVG/KTc:CPE[(eKD:3m2K%8|#(6AN;F1=V
uzrA`RFY?<M$F..JW~PQhwK4cdJoPP(^$o=uXODU<c9~d#I0Pb4t&okEn2[</1:T@Mg=ty[61h3f'/:7ss@6of:.^zW0H;J9=xBE
sOs3.p<bn22R42/_Cx*Bo!!XipsG:cd.upkdt(nTC6>/M@4;&;;(/F%cX<udp!$SSK0Peo/;G]c]pVoNs0Uy.Y[>J5U<b0jfjf,S
+KJ=+ym0Z)U.WV^OA#dpiABEFp'%WMJebWju8=ct'1y'S#I#HY?frxg6X=`9U9x;?XuioG|;nWcr:)05o<N?jB0Dy;Ci:ZaM1GgA
;Jq#8IKn|297e'J0tV',Py>A3FlyHM5Ch~0~KA^]uk>#OjyUN7Nn5C_M6wN,1C$XVfDtMiM+Y;lWSu>o+FqB!LMgxQA1wmxnY>1W
v/1=grek]DDyu'cjlpCf2l33I#ZSs>j9s?[CL>^&MAfLVV)y]OUrH~EYb'ZXEC!Qdth';IA]%nU#fC7%@0%,)>/ZW16E!ETr'Q*;
SMHlhy+4eU>hPI[g,*%|L5j3C!TofOE+&>atUIYGdK8$QWqiVY%:Ite<0rOk@V6V0;!)E]?N|3!`sLBKmF;A6&0(2#<Kn6Q@TG3:
=#J=wEvIlR!sB%|^_7:Zqt'!<1X,PEa|TibC0eCZ3>`0'uDYDj!N<@1S~gk~9.Z6An9!5aYRikpp:_fgXgJ|q&dze3+85s5zwf*&
)^FCc$Z#1+Leob@GrS%Z1K7bRe^?2>CzZo!JR'L[Ix5HmahF]Kp);Zw`Jk)(j7CG,U#arQT7>7t5?.;&5H[qDZ#`;G]')F4$KgF7
FzHrc^[<!#|a6o5jmD&>Q~+CW6i6Ov]Rzt=,@L(7nuAL8tx`$0ybaP|5B2=vgESfT/ieP;Ad`P92,(>jA)3m$i8>3k9cK<?e^2/f
A5GaIR'9nXqu~U|e6C~k*T!9Y'6JZHgB^e@ls5_ZxYP[&)X<5MFCvPb4p3M0cdSP`NmQ]e))WY+%q)ut9+8I+=^fA)JXJIo'v!1b
|?<vRBu7<`c2:us.9en3lnp*@@vK^,C~?5GS5aFBaCv9&`xMAEVAQNzpMsaWDu;vpaa3UU^dZkodr9//4gzv98mTHQJi%b0p)2ea
3yV@lXISC>,zEM01!F,6M#vL:E9$4&/Ed~IkOb`@NwQjyZ(p!btGT8n!h|SVTU[xugJ.+n4SBwU78ZgoW;JV/[&I[T7L=niMPK`U
iWq41XoWejF2wyTjbe(g8c1m@Zx4&Q<R]5=|bnPz3?p`lJ/Qe8w0WVNo8b8xh%%F=Yv3.!nJalCeC5FdTDwNl_^Dfbzn/%!c6[Yo
deHseBikV>pI)l/PK<2#t/$UD2+_#WZ]u;BPfKE=oB[Q#2N8N06fg5qL9<R^iy7PkfX'mJxe8Si>M]91mHd+NjvuaWV7JZcX/DtU
.w!bQ$pw_:r_F:Pe#eBNH5%V~U^OMZw<nTZc*G!)P;#vnTd)1_8:Oa#sDW@UuuN6KwwR~P_N.>NOc#oa>u13(w*64Oh'@JU/UVzz
H)!AW,i[8Lc>/)k0qia*l's3e$U($4p&cy2#2#&FIe_b2[~)/CQs)%)A7;M7a6s+9nJi7P23s)#D&.#:uarO(!F.R3X!5GvU7)[4
f.PbuJr]p|dLodL^w%.37!kFeC?GkTO71%t+EEtFv:3fX'?@hc3xC4X?K`$YRp,F!ev_mC|,VE5[?))%H_x)Ikc<3bevQ<M1MuYT
X]H0k;>7Dm0S.L)Cq[qHS:Z65v7$75$#=fE$y|/?>|QVBuHbg8IbV)YSmw6!XbpFO>%G(paghfZ<Zd>'4[A`4d4I!@N49~gDc_3`
,y|sEIn^FhNCGdYI@en@D'y|jH5b!hb0!$g3oqG)NLfRvw,UHb0Q!3(RKdT~h<JB?3lmbt9@$Tv.?s'uW2ujhr5uFt~89rde#[ML
|..<=/dFr#SFku_,,<j;4F%q_(mCu4vSS%b#p>[Xl#&]N$/7@L?dp<rg*a,z~Loe<ze@dX/~pGXG,(m7@'J=zjd]*KzGja[,2hIh
:!G8S>w~%'cC5Y5;K(>o@ndg;dc(x@'W6N;DNj>$TjU/aBY|g:T6eA$(25l^~:bfb*~](!nn]XT>?'kS5e=Wn*.'8J$vwds!GUm
>#U;M,LO/AExqtzj4.4!@z01cA=7x';WeXRg/R'ooFqK$'[&BnH%G*Ig[H`Rq~IcSw;TPuh5RZim2o7WmkV(Rv!Ign1D9`v=h>z1
*j$Tq&ck|.VP&yDbj`LJS1q)8Yu7n5npn7l37lEiB=`wZ;1o_+sO1uVAf/]S,Qxh.*UJ10tR;!kHY+s@kj%8l`jlQf]J|I0aIRya
Gi,b=vo@aTqZywY6aySbO8lf<AO<eHfx9OWK9Rg:gGaEcJ$ma@9z8'xmRr%>3qGau^s)jS_&K#AG>^`*Rk.5pg.]p!So62xsPWZ3
5o.DGy9jc)n~p[4TW#JtbMdje0?^q$T?TF;@i<?0eep*A7/1?M>d%_z=u.9UGzRD08v#K_1HEqmd.^+kFTtI++8h2IO'<M_ZkW`L
MZeJ6ZZl^*bT_P[sv!W#yyJ<@d*ksTIYU,vqRpS0N'Li7;n&PeT~[q((&3NV<*3:FK)x+hjS31[IisWB]e@|q:$1A0?y=aQD@+z,
m1UMP!@j+Ko5,Qpd2ilu4:kFrA^@nZ>;l:>|Z9k]SqcLa~;#v2C9zS`0lNOv(wVJ4C~mWA,k9[M0_~wEQZ*E65u4fq+,Oq.[nVqI
$d[=?9b7p[`*]n,:[sQ0mMx&,&mG/MtU^Z~6p3%LxLIe0'D$|EDsHiV~l8>oH&)A,<@:>#c+(w*kLwZ%j)b9q|%D_We!n&y/+SX_
4RgK7(enz2,V1NE*`]^s[vZcXOy][@vdw3F_=+Pk=^s(gKc'_r,<1C[kC+8g_5;Fi2`aF;Z35DD@ZbY/f/.Ui%;Qdu$zVL,fAr6%
MFGc=NIe'N!HmPd$`l8[f8!k%sl3,a$(70AbXA]S~]%iiontHfjcBDu~>:N81i:|h)O]bC;fTH'Y<1`6@>@my>~4(y$/xcsQ*8_F
<~y0<@jdnKzFq`rRcZi6zyzZm7U%$z@:e8u@PDoq1T:L6zHSM$$35NQd>[D,5gShUZ:7]&gw|PIZ312m|.GtK?L(l48<C2Z3@zsn
=)lQv'gP+W7#>M'UmItn02:X_ilWf@a@=yp&*k._$4'R[8=0!Pj7Z`4(<n:`YW7lyTu0#K[*eU4Zy~@Wk:=+7/_yHSe><ko/G:7'
wcl+dO*pIKq(PL%1tVoubhc]^Tw_K2JWii.XU&K0Ee!JOr(OJU'gX2&$5>PuLeO#7.)%wJQexEQ+tw<8eWT7:p'Iq:Q]KH]TVK&:
[O<Bm'Rb,py&>8FQ<0JfSiSp3ftm'UksYJ!i0VR^Ker.!MhsP88D7jbg(NmD'IOf)69%JO7fT;ZICv0'tbSA&76lh'_![f6'S)5@
hj;5L>ZvG[[Y)sgpIZo46I~N!7FA<$xEtuBUf['r/+S`?i`FgC?OF*kDlP#6OB1ccZpT=M?0,T]V?Eox8<BC9gx]?e$$^X@w.P#p
:IQ2/CU@!M$Kz6]+YEs`x[rGQw(O02Y%#d|NqWF!fB]MkIAe;50A!gqXEMeQjP'bd,e4,,JZt/QwVU='V:hVt<Rx8niWd)V|B]V
P@hjz7.aq2OZ2PbXka^LdP$4)LuEFcOW5BvNgs!.Y0fVTxT*_isK7%a9q>_CTM&ukY!Idc=3yn&8d8KQpxOm/V=O9TUs~ww7x/og
Yl8H?7:XnAgvtwons'=BRuJh!$wIaZC11`x5v9<|m!pR_TJRg'mjjyU@jX?o%URL[jjcwnmmjYZfDE^nhj[V?wS@exc$H(;vf.9,
rDCm&Mqi+uZv5LB.i#yW^]QQs5^rck8D+TpfW~wJ4u4`H49%k9q>|Y=IK%q;4lN7%O'StHyB%c).#W0=]R49?8/@QIM+jG$)vXfs
wS;YFZ[Sk>?DRMrQ_C]WbXU[;s9_h!h[ar(~ITd<1F.7|a&]!*SMMtE19k0=MOwOCVS#b0Umu_[1ucO)2nCugfhb0deg.]NhRq@|
D3>ar_=+8[]+:XLG!4/[>h1(55CV7D<*ig*'[1~S,DU~TWg;M]pZvm!efuVkjA)bG?w=~|>a1EdotV/.n;n=E54NLtNqf~vD<O&q
Cg~;Kg2n8u/`3dqu'[O@/r<x;2_JcHyuum`dvKARSns;WRJ`=8)ury1ngxaq#cniUVrR_Pj2J|h$[iG?NY)#?biChNkhltFKhkAy
IjcZfTg@VA8#$UWs/B~ug*Tho8q?$n~xkSR~&b6?Q$l_:W8[dOor1c$WMg<Q)*~@g'_KcB&9:v?buR4F4d!4wl!JegZ!26eXApa,
$|,+,w*8M>QrSEV5zls[P@jW^.s=6gl/>&qwzoLj/)Di%g1;)|v~/$;m(hBaEa;]RSp8B^e&T!Zu$dpxti9<A%J0G0Pn,QNIq`e/
XR'a_$nUfG8a~iUAlp<=6THb8dByJ`sC[`zyv*[gQp~_'FXDCadd422!]F~+nz;]t|es35S_2[#(gEzM|N.(TL6UfUnV9FxB^jsW
ZKW3|T2GC?a1h`K]Th#zTnqk4fj=_|q][?4?W#XL4ce*X:d@J?d`(/0I2O<#p;?v(i=@1Bnz~fPB<1jB3M=s0~(MZZ9][x^/(Rfz
HNpZ%wxj|LssOWLnM2./7RMndEyx%,)K<DE5%`TKW.RKM]]m0k!)Q:Ux>ptNfd.tWE>.9!BSxF>.e;bZOi|+CXpo]zGqQB~+3/yd
?!W?Fj8A1/[298Bl9ew~^=1'p`;_7bJI3!vvNNfJP/0:2d#!MZsA2+KOSrSd,fsR=UE?>&,_dH=;mB,TnX?Fh7<GKTHQEz2;c<MY
ug6NDr=N4W$l|g^`:b?qI_y0b>w|N(F0IgS&0AG%q6!8o_<^rwS3p2d*p;/jzp?RoX;c<Je^M@V5cak)UMKm')m2n)[9U'9swvT/
JZ3W#?CkTS;zpdZ<+SH_#h3VHO~2&5=7.?+a|f0qa!HnD5at3IfsXy^C,FDHF8</g'1g(<X=IQbe:t45kX4oI&wjXt]45QZ$+6@I
?fTU&gtZ#~QHw&a<V?$s9C5X(~3(O^]hQxYnw'D)VvH$7b&mt<m4z+>n!CuilvCp:2vGjIb]r5w~:2/5>v0~D83|.+&!T#35*~)N
1F$|osM0<Jhx%p+ih.NR(#r(tJ`56;_W;uf<=Cd[5`gEzsV&t$~v|7cHy/lH.)vs1*zGR7/3v>ep(wVgbJ=`N?6(U8i%1@38KOd#
[Ec$#2M/q<uyW;#a_L'F9%QG;i>3hIho9tU7ZCQZ(Wx@!NRf^JY[)@FG66b;$SUWefEU8&O):lF#Z+Se]5'V^DJR#]WTI&>IvUZj
ivn[@s&_8c75k%><,3+YOp(rWMn/?2Ghvmx,+IIzno~|$B7$aEHumw#.:J.XC3LoF5a9r$60^.;p~/Ou'`n)kiy_HyQXPyR6jxJI
750BUM4A[F>Q4>6#H|^b_;%`5QrdNE@!~AR#wwDz5B#Ok|?/P(|?9=CO&c.,GCgn)JQa8YRPGrvqRlV3M_+;`BXuWWBm!)i5`$+w
Zn#P4J|[/Mcm0~Nzg^sv]`0SpmMG'O8$rsV8Z>ulima/g%8Wz7zc:p*KnOlc_rhGSb+%|qNHyivJM|3^t_V_FJQDjkCk&BfXKW~*
JTK+1'jo2G*Kh*_sixH'Y'XgW1ms;hhI!.Vxxkb<gX~ipFV#[p~l+3oWfCjfj!EXZ4^AVJ12GewzK0nXUUe*4+x8Q5[u#`nTIH7%
DRoR*h_Y/S&a^X?1fU(U7*+A)Zx*($sJ3]IhR:pT=)lAygF*7],vkmKKi%/c0t;Qck3Z'#Nv]XUY=xJc.`weJ^XhJo$&e.zVrN:&
qEdNf31(1fI$PplQUQ)fuQ*RZpJUPjh3K1Ve+q])kk9S,5?*`8A&+'i$3+_QqE=!*nBbjbwPoU`#VltBj@hDV3E<.VTlM8nK^am(
'c_*np>L;<|7SA1QcD4vDTB&s=!~Qd/(Q;5$CaW2$a:HmK'D,%5NbEsnt4T1OW`9YbPMz6E=Pe:reKz@14LMR/*'WhLf3[Ns,U8R
v)`4anq_)]F1Ef^lPa]jF:T$C~KQ,IL,Q5HKz.70lFJJVMMX?d%Zlf~fhRd]o4<'a>pN,/Swbv(Jbufqd4mGbjC(MF&)K8EVP+=|
(9m*6gTup<[~YEDo%~rC>@v(z%y2J]5>kJ9@v[+rM>Q8Z^Qj&@E4zRzVWNt5J/O_R7rW2Ve[^a1EQ4e.]$cSR3^*(FHmmI~+7T(&
BnpEXyBo[<aXFt9d[~_(!*8dAdlOmSDl2g6Qx)EZS&7XZ''^;PQmbLun>qi!Y1nRH*lB]M)vtv0|.o(Vh9YH3r?hChfu#Ym8(1=(
jO%RJ3'KQ_Lbuayeqy^MplkuGKt!mE|<DROVo[A`5!^D)Dt'*TBT)QZLMBw'_ciDt@c9%6.+`V?,GKY35f%lGp2VZ0D*1Fx;2fsJ
tDVkY)or(DuKcb~wh)2*'?QCQ@sxVwMv8TU#c@B0Ho/R9c(?%5;qdW:s1jCH!*4ln:[X[0UO/w,u1V^&&*TqNnS=VJui1NI=yw|$
00hh?4`zl#n72ysRr|J~ofVfQ=oyNVkKkIqMF>UDi@nfv')fo~+X|>Zb:,z>F%v<i`x?VZ4bLedQ4U3;WnWAyx&(]$9!M=nXg]Rk
TwLgOI*'q7);jE&<JBkPy6(NDp5UJeju1r=$zro3QE6>LORrynG7'`T=b!N~yl[]oOq:d,#_qF]S$D<2`iL'|d]IuO#saMKuGMKD
6@<wnv8/3lL%Azx'pkM`:p#M3ySQ@'QmHD1er[*Q]Tp)@(*~N?Zfrhve9nkn)tX%`T9BB`7/zpr3HWuw6UX>pGA$^/.UiyA~*g*$
mU8t18LBH1x3qS9!vx4?;mk7aMzcj&9z`8X~K0=<HH!2SH`.]3w&tfs]4fpE(<w#)3<5]10sGSvo<'Mp^6<E%n+hu<%|NTg$#*QD
J0mvmvT~ZDr*!v'!fk[=TTX4@YnqD#px[qMCzk:GCiR6,=!9(!w<p(BPPr2n3udm(B%^>fJY:W^Jvd;WRm(mL$+iaqI*iy_G8&p@
QN(#,Z[)PeXv^Nk/_bN54cP4lCSQi?[<ThhrlNrO`S'SrB^`8G&:_Y/^;S;_GhGcqw~)6?UYb$'kIT^~G!MQ*<Ey$]5N*:pwe.bl
kxxz@vKy&CAqBg$i>oo_[bT<tMV=K*df[w4Wd68aUdY_z44Pm]0kHcdxBfGIoo8o<]HHEjcCK[9t3hi>fnHs|M&5`@oD|<xZaDDQ
y~4fJj[1NGq?G07n+f1u|3.r[I|8vK'2&%:VRABof|MVw~CIT(r=6IhkG0A+*O/I|GmHY4r<xhZH7PZj:%!/d^(u<6'7R!uj[IBy
xVSzrJ!zpMU:M]]nEdMNrln<~Fnk/bSls:|P*QEHR1CjbD_tVk)MJ3WgG0,Z~.r8vCBDNT62'two8(;&75~11$.,whzcnjxx/'Db
z^+Qgx0'/w_(4(B|ypf%I[jRt0Py,TezeK5(fA@5:J>W8!T_XSMQM;fS>vF0C[rwrnEQ9,B9'u/8ZW,f/%>KypOcXq'RvwW*rUjK
B_V3elnq;UVzmDe*Xu(_##M8BX2!Q?4rw@3a,H@7UW9A|3s8:CkyIz[t>9cYIO=Kj(/,BDR~QSuXVp,M@QNo<Jcn;v?$)(%Al!P9
fGh5l7S8Ya>7+mCotIhMGtCmG'>Jc`JrT[mU@P!EL!J>+3#'f4oZL50xw>aiqO(!H1/JDWoeLoC_A[yR*XNc3ksv4Myx@X4I42&?
!=nD&eZ37u[$z&e9bp5HxpzUIil@d>thKFi7Y'^CSO|Ef,l`6b=4y`NS4tajh&=)rYO<uXQU*G6HKtG<`H02!mtUvs=q^L^6@fK+
GMRWD1K`6ou]u558ubx$S[*@`V93k.pFo,qpW#zGay|5bPT5((^NoK<]!1_ZSF),ZP[f:Ylxxp_'&)3,Ct.A*dG@p;f@K23f]APs
yyGY/;f!EgP;2zCQ!4WS(VrO4#@j(.n[lP%2;f*6H<iF3/Gl7Xz)6~yvy5Na)OT/.;Iz_aJZ)>Zec7vM`3F_I@:q~(My^;u~Qz1m
6?':oe+<!g50D0I/KNgY1*Ba3dlvWYEvqe=szGOK]2iH.'8KXFh$6Nrh0l]qdLB'7oPW$DMbn'i4Y5~v`M`S#Sg3uMu9Cp^0K,~u
A2d0*?w0M:B(VO[)?2_Ndps!N#0Vx1K>0Y/LovDwnd[eb4%h|g[Uqq'Jj_n1Sbq'ZlKb!?&9]u_og<Pb9o>YydS8P_.'Gr7fL_>>
wX=ngvAz~RXN=Rz^F[CG4ZQ3hO0kcnMJ~@UDMdW9[|g1yep8qO2G^Mv(F5#ZJuee=+5o)PO_gSNMhwN1Z7*:JORw(K&I)C,Z;FcY
K7IZbUlZbsAp0&7sb_'sKeV9&xt;A0?sCSPp3=hp$=vWfXKV(>KaU#0wm8?p3S*CZ,Pi$3>5LHrfulDiJ.s]%<$Pa4ckMC;.2F~>
7UGxOvk.5@4S$)gxNAy]j0*#qd2A)yEn<[cAB%A!=okxTaHfkvt5N(UA2?D@$$fk/q*Pso0[6*`+Q.#sqDE*@G=g<u:'=[voF'nr
:(N~qucNN:3<b4W1:XXBX6^UrE+fL?dO2.0qlM^jZd>kHCTl^l#U(,rPWSxu)j$[:)]v%3r.yxbCTN2;7Zq)LHPgf9LZol6'CU,|
'k64,_ezZn/aaeW^!jo:`&j:#3y2xV>~s*N)KnPL@q&;'4[`%?thjm;PPhG`4_zz[X:1;f=;<aXPzyG9>EmBiO/!vF$yS<~VQS5X
eC?e2'_.;A!0dM>Nw!XFyeiUlZCOIopq*G<S,l5bCjx)ktozAIz)dF^0mAF5Vtb]JkWG9NqY#O6Rwc8%`QgB!C]2bDjPnR8GM~k.
.V%`Cm2*KSH*5|;[^f2b!u;)?y+mYQTH#,x@3z/m(2[V]#$1Vo@ukG=R11!dZ8.h..Ro'Og=TM$,CcGUsu7k6FKj;*,5IU>N`Jxj
|zUUs1j~W|/S3:&wznyAB>_I,L$z=i+:N1OHUPDTQx>6Jnu|ryimc@kptY)Nz*.uDVY:rZX0N2QKZ]Cy`XIfH;MNr+|M(zU;6<Q`
MP|WqQ6)CLp,9cLFE.4|o6^.5Jg&`@$U^t8O1jcIi@%!~ysS2_>hLmP,IFd]~FVn808Rg8y!j&d]Anq)Et%w;Z.[ATKsM[7|Hu1#
tcuR@>6uX~)6`|L?w%gZP[(%6YqdQ;>D7.yovk@3V`PQ7D_(x+]_4Q6$,]Sn@@)P@|k|?sHdJL0rtnRKNuRQ/az[,3$j,esh4V2o
7mvK:rV6<6MVxIJ%s3yX%:AMDxY[#[S.#V~HW0!?1uhJUs[zq)[leolV0!tG/MqEz9,#*[vsRPr+B74/J[X>Wohc!]GBgf,BY9mf
HxwnkY$/YzMH%OZG0+S8$OzItO(:.BGBWSE7G8gXQw=8~tYkj:8:STt^S0R,.4X,(CmT@VD)X(y[~H<BPCTAXHZ(~7U|9Ch]NmS.
Ws6n%Yvn^[SZ$'`938!7&'adNm0+FvE$oa~IH,4t.qxK'`mV7w)lYG::6=hj%D5PnwgeK[3*J?_,R%mZF~:XT|qU&|67kj#<&#7Z
tI=w$:z8mQL[8=X&('4/x_[ZU/cw9g<nEd<9[`/lQ)9I?a#.Q2OsQwwpt*VRUyb5LuP9BlD+J:<i_C>Iy%H7y29h~,k*@VmDOd$~
o8g4Cy7wYXE<sZ@c/'l#DLV:K|O..NPXzkI(~yKb:MGMs/]!&$OR&4UXwKaqiHpzDU6,@8D*Z33=2_ddP%NLsfh3a)#[(VVA?63P
MvyvIWH3+@^eBm<RsM&7Coc8'(r>1;@<:A:QQ`R/:Vl6PAPL'Ax&21Fn3yrFWd]HA9+`u,TZ8ut,,DTry?RmZIWn?SoUqX$`?|n%
k@wGU)puELFRBiENi=^Chi!WBx<Hn=82Jzjm5$FnW04jUGz6Y+n5m?;8j5nI(s1a97=c<%?hUcaB/E4sBcFF2M[r<i2#/2%^NYIo
E8#NjiRIxa&_^?[;Ym5+)B2+VOvt%[.4!.5%OuKS~iy^l~.|8@eE6i3X`o^a6o^]ok_0LF8kH[s>~Cn)fCifnFE'[:9_yN|j'UZw
rcAo'A^B~tu!Rpw+;Dq~zO/qwJgY8C;><U]';m>W_swTR`&vJ,+oIAa`d!wFOA>mv*?Ln+c9;D+bGQu!sGb2kS1FK&67&3X3Jgdn
m=*;Of]0M1xT*a'R9A%*.D'H1[e:@6@<?6Xzd$qa|>VC]WHH1g5QE<p)C?@?/@T~FvLn.&mYeb.qISAUW&NshF:V#gf2@1VEI3<#
v=?6G^?L/ug$cUF*NeH,(:Jc9_1byyJ;%'0C.&|?S_Kg2AV^:#'17gFshWU=WR;C~dsR@B<vpv7xcOzh')87zJTW1GV[C)YZQQY
U@HV,GoM`f&Pb$~2o2VIwd#j@kal?<FSk1`'_i6w$IElE5d9v'(n=fS>8%lS156G?x<QC.%RCTTqjqHi'BeBKC9(PjiK3jY58#.~
$4~2z&;?c@~&KCX@p3aG8OR~W]0;0nK:VtMT~aMaJ^LQFycEKB+n^G^tL&ih_>QQTykQ[w'?B'K)?|rin%1^NW,s!z?[AzY5k1me
4|tP[9BP`szpOF7)H#=oY;q@*kv$wfuH=5=g_87*:fm~SPJMErau`%uB&T^68/A%$crygF',vLPI)8gn:E6S2%qeI)CK10ya<c'p
yPNA?xq/8Mi^d6$:5P]MWJ~XKhT7)rWFp+yRiySf^eI&7Y*Tp21kc|r+)nA9y7n^[8vu+euJrz]B`OXs|~'46sc%y0y5*pvN[n&A
OPx$/N*'JF]r@GWKC`BanIQPs<JBO,MQOMqLq%)T?K<d*2i~bk~z+TH&IeQ#2<3//?'ajqI)bngT.@eXC:fi9Qpo>ztWunKbv8<'
>XiR'wK.[4F_GYTA3t[qwTGGG^m(RxZ.D*>P/:2`S*+Rk8!QbZ*f#K0,a`Rv)Y!MwKAaXtySOIuM,[=@8<.!,09B7o.[p6.K#U9,
1R%4krHT[]A>=<#)Y:9v0#;![[4$49I6f`/]FURb*0JjG6*^,?N46Asx]G]>a2.Viyd3v?^*s1y.X>2V!~ljQMqgS?YjJ>[h&g|1
oR`(?rok)oF85f9a1BD&5=G&($5s>3B4^ai,qAa~f2G0`b@!<mLeg(`[L|c$uE'9BbcuY#TnwL^!adWbi!Y:f.A<xylYo..7:RoF
m_;]4%n40KBI#80u0x)TA.^5C5>PEyR[UE?d^?1n,KbdNo+rZ&W'tUu/ER4$,hm[X(3$++RpXz*,M6'50;=9&%3%K:Vtp4/QsMc~
YC$/Y[5K^mJ#.k9n38JHh=,wJMfQqJxv:[sP#F4j`<,jV(`~[0+rUpK'n2%OE~0+b5(sYPU1a#grBB`yfkIjlvyM'g_M&N<4rT(E
z[Jo#hL0OU7uk#0kJq1ho<%%?4Pwpwe]@/Tg/g/T%j#CjTjbI%tnRsPCcSA+]S;lMiOq,Z[sn<Z!h90B8`ltw|sg^qZ?t`Az^P>$
YeT/%88U9H>G1[]Fd)'Q;Ab!lr@F!4Wn<2F&arkqa|:kcn2+@&lbVB+Y*b%)vbB.Q?CoG#JfB:40w@[ZMmSHzQQLPv+wYQoVt/(
N#)eZjL`%i7AV22z5v%^U[#cwg]bZwiqdf/(c_pU^W;3*6Qs:l9w1'k_@cC(9ER!Eo9,V?_=,3Xk02~2P*)aI#a3V1agP!+vlgu|
1,/EsDdzN5NnQSUYKs7oPG(a/,ZS:Dw/>j$;egD9yCnm+uX~;>2T$(W9$*y(:IZen[Yc7ek]3p)RP_60D@7<XuMX_zmyMeL3M)F0
v;@uL>,@`:WKwE/|FnzR`x_U(('OrYC8)f*:cOcvmX3KcEEs3Sw=up$]h,+CFOAhmET9d>7)(/49*T(s!N~E;$Gp~t(W<K`U/lN]
0G?M_4s/d*VT(9Oq$obm255P&^GEuc(8|.t5g[zyL+LFaN%G&j'6^lnA&k7s4V,Gx<+7GvzHNKQXhgq'qJ'b?,wf^E620`)u`(1!
*.4G2GmPoAVlASWfArv/,)>.pS8k9t)j_u?Szyw3Ep3(OBT]TDHK2/:q.XqS;W=9kUYJv)e1o'~4t&_CgHIAF8,WZg|]Mk)47KWq
WSKzVh^0Z!6)#vEQ4C`;@_)NNo:RPW0sY2[*L!e@<.1Uo7Q%R7([+QF=8ThEhS+&*[hk'P4>Mb$O>/nfle+MQ+2||vn<FwSd%MAj
vqvsKMUvo*`*[|$;VrRb#Z7WRw(/#1.KYRk#Py0cm7v/+FHkMAC^_~0`@!O3/l!g'CO5C[6.W*>::%C`r?q3s:[(?.w=4<ENp5Ut
6<J^(HftDMOKSzp)qdkE#K.*/>nm%ik0e(F`8Uc9XD|kT0$s'v'^dS2cw!K~Nka_.X/0g&/n]kZIt8I]:/Bk>N'=JTaE,A8r'Dvv
z0FY>#C`R]A.o$'&s2UOLX&;8z(+Pz;5VVsNyix8L^aD6k9gPU'|a,ZG0UU4R_T'vi!xAqSS!t'ib[%y9!wVdK1e1Sjv*h@0JZ`H
6W+kMXyX<^%#'aVODmpl*2ljINm|gTQV+*^H5]RXLMorW8d'8TWp0<w:^zQ3j_O<dTjoYl~zxb2hwSU#>W+$*x>G[=,S.=RY>Hlp
[Z2L6dkfNLX]xtl+pjCA5XM4VJY.:jYYG]AK4|TB+wHeGy~Pz_q|zVP@:rB~i''/OH8Asw8i?_`')?K8QpTMeV7DU/w0Rzt7uu_c
pZB@qP*+1u='i]/K%Ne*,Pe.je&11JyT:$T#!g<gF`]DbpoZe:m:i;&'!tBV~8$O%y6VYTb(|!8(6004sGjD!1YRhsN>v?fB=~l4
W>mpEbNLhSkoN](L+Eg!$'cdQ`]J8v&zNh@%bz:KGrPqC<bYf@sf<b'#MY1HZPrLH?WRY(lN~3g~pKt|*glM>a=?5|i<LM2fxG).
FFtTW@95(ix!!aTY._dB~qADA_~B,@.<)<ugG.+_'Ei?=j7uc.Jg:wRxX%FZMr#005)g4xpPi&Kz6f<*P>*WcGQKXC`~`iD[fN2F
gm6kB2sM=6sZg><&NJxvdek'p!uUWLy/J15Euf/E%q2&/#S>1R]>0[a/dP!![:%GeiZ^o/?IKx`E>e9C`EB!$?@k2sBkL[^p!inW
S5jNc!NNV[A_].66$<Q2ow<',wT/]UA>uw[;p$%jGZ*Yuh@zR6jtqFb[a2UPDO.9C1(2a.WR_vC99C=713!S=8lB);snsH'~,;%D
yXP^tW5!ZPCZP3<?XLZ&LPTImE[]MGqo3(oJOucBA*Mo:_$wp=YV>(fOfA;[L~V7aaoUCnc.$8:O,o&cl;[o7L%ASg0L1]$H.?N
0@dV_[yT81MV/U04gR:dfpl^9l9b(h?Uz|C~~w%b@WC!x~Nnav[Xw3l$O!dxmr.6JG=!GMU6s+B/rh,.AyVDNj!a=%rARPposA$J
hGMMbgSZWaC)hFhF^[;edu4p~@clH!`bEXuF2Dt~TD,0^>=GFA94_'~Io%I(yl$:YOD]^Cq%>Sxcp~aUa3b_*/OnI.y^t,'T'Ee7
docBswWAYFq`(>!t9Y!^|%eb|A0D3$@Ot29uM&abH<3[6?E)DyG?lh#JF`Wc5le[M5^n&48htD1rfGE,zpEftZD];qtH2?L$9vf6
lP%6W&X<t68Jgg459ym/;]*rp*h*0%$YH],x)MK_D(SmYPc.Yw.$Vs_L*vte<A+nr*|<nC$D2T!`1E=9<n8?rw9>+!Gq)0Gb3#)1
~nLB8EU8!;6`'Pa)(T'KJMZaYvvzk>]W[jg*&b[[u&u%k%+bW&6X*eNeu3&Z6r:`A.#iXRe/y&&F'8]7s)0'[($g!oXW]la=MrIL
ZQzfwbq4w7!:(~frQnq,JA(&^cF44K4P+5lSEW3y'nzX84v,dEYzv,j7*a+dn>!GL>(<?!l5A$FfW3*wY!jn9d*,LL3eBGe<IsfO
%i2`A4$!_AeF2cH1o8n:Ob%/rF'om~IKymBemDetO5QR:kZ=A9NR!5L|sGm`DPVy]dGRz8G_`M)C:z.m&bXi6z!(!%`ni2|qoxH>
3YL/d(+u:!^;mn:rh3s;H).juJ'+<+#DqLSN(hWXFfbSXPu0QRj[?M5k!+aGWdI&@y|c5h|1|E,?JPt+$J;z'ag!K=SW[+Pkme2~
Cto*;M+K~WsQ('e`4yu3CMk;eCa2)=d.0m1cSxO)mT1..D:T#<]JG:i!~kl&s]RLT91vsI0@I280u#`I#sq%m8PwxY2ciZ(XWqEo
P.@*&ORI7e2)Xq*5e8*q%<U!jeZxh<+dsq7,#Das@DIqA5Em`<H;dZD'r>k8@lvsAaujDc@]e?qs~33XyNdM3jn=='V!Rp8V8b8<
LJ<PbQ(X$oTvA=Tv+RU|ebh|Ak!]*E,1+>DkvfZg&A$_ABI<DL9)='hWJa'+e48mjIjQlf`mYr+qe4hF;?y[aJTh[dx3pcgt)ub^
!B/E40lg=is!g<_'f$e4leH:#KY#F@@h]ovrm^[/us[muEJV.P(=g`tRU~7.;9~Y9P$3V!gm6(U$VS8!dCG^n1Jf|yf.5ner.G|6
6c>~siGBSteiV+*7h<S]WDDSGBUwnMM`nclhA`uc?MJKXX_zu!m*&%hw:|T*v!3Ml+Ex>i8XHu09fYVxg1v~/9.n.F2.`s/PDz2B
pZe9<Oj/)_gLybq!A!V#.ueoFVIgrq?*B%d[kPb/EnZThxLlOq^[LMJ>JLSO(p*_$])8VsH7&|jv[1v<|jypC.XQp:k2h4|8s~%]
Cd2RWF^j|uos?n&rBTfsYsuCUnI!Xr[X>o~sD:5%xlT['Zfpq=b~Ks<[g$/gAKe|&R48L[xLm9%6)DtUhxVF67*fC9sQdq$D05_!
0N52$^v)+vX9IAwmSPi$=Qa~6+TtR?(Z:r_Sppz1Ix[`+D~85Wa,b&B(WC~)?8'@zb$]bEB_pQCS_!RO]jwGwbu2l?Oz^y<JjXDH
%/owDywqumE^Ke$X6c%@8Z46R^'i|/3PkZe!0|2MZSW=QN~%ugkjcSiOiSG[MdSnXk3e^lI;9'wm_Ee!GNDc#vQ;MzJvu@EYCMOf
xltqp('/akrTy/7ybWxe&Ql]D_X>I$p(,Fm:XmmyC$NJnRGu1H8g/NhQ01V5<1.^xB`*&rP3V/uO<~78o,t;e~7x&syaE~s^cV/N
855M8V,t#5Le[UUR]B_hdwu$'90/5q,4n_fT4+auU`QNRcA]&X#1,|RXiGyIhG57MjS&#u$|Z/bt=zMWQ~Cwqa~pec0~v$?|[Dj=
GMB0%|Zfs:_Xz4cT=Rsnq.8muMBg1h3P'V^eJ$$11,%m+rR+.u;f3/yh,x:xhEi23mQdsBI5U'|*QShN9)<KO=@ttX/KJSN<5X|f
E!egIZdEc?cm^'H_iDBH%O0pmch(kUi*q!DbVEw!4Ea&U3p2/~DG6fgEj#AHT'[7Dt=~1gHkGE?z%?I,gTFg?(uun'E5oC$9zNHk
v9h(Yw'Hq/TRk)4B'a.1[yy~Ha5u<L'n(/~:OhR!bI|iDU|vQ!`6rHBLoCbMR|9*N8KF[X.b>u$ggK(/TXc1We6x/)[py@*Ri]o
m#O,:(6ucE#5`.Avtdk(Ke?K~`PMXW$'Zu0f9;AF8@%pwqgci6Ht4<$PZW=04%LTsuOQooasDm8|_mVc#6:|mIEh<Q~5sVl(I4+C
XNEbI4;gPIZWmjRy>NQ/QWDt]%WtOT^As#j9!F0[Q|l8+K&n_ZJ2JC]ht;^Td+oT7<11S;V]lpP.eJ>VY3<hQXmD[~XiC'Ala%x!
?o<JU]oduhm|i!lfYP<(Nr|A]Sjr/vCc$9HJ9,[JgTr8(3o#BTa*'7)mugi&3*K$|gXUMFXsx`YrP01r;C:~cQuoMelNdbS(?7h[
_aV8Jd%xb<37MOaP?VPhIrz2u.xSV.mj_CIdw+`7X&V0`@)[%b68Sx~#@SB7l=k_>STr6cRwtTH>||@[+VA7<yb9@ql3$k_Uc:MM
dfaP~[60Og!pXlZi4j+0cCwBr2.G*%FA|_n;Xn]^w#;>=!ZSjMuvXHje/e6>!GVAh`/vQ9U$0~q+L=,9dBrm1oww^0^OzFo*,;Jx
!IyA6BR;'l>8wc'qdZDf5Dt@?F@qWPpa)ZA;%WS.lm@wZ!1,koSnJ(7,#O|=$v>vwSAy#&|mo`'ohTW;`0t~m4OS4_]Igq]0Q#VD
dms3hX0e3?lNn~sP9)[H'27%Z.]?V~q,S5^a*lLqo82`42>[[KmX@L0VUdGF@5~UTdA|jptP)jwyue'<W&LSM&:LOXF'i5ySl+hq
OPQk1T_DT8kCo]we;^f3yaPT5v:S^zhVp/20BaniovFO9#MP~F]V^CCW:D&^Xvu!|TZCFGZa0|t=tBzVw+#^!*(KoPKz/90$7/tD
[D&7?q_`@wCfiu69H~P!5Bei'4*I5'U!D$#EZL;B@1z=qT9U&0o'?TB)rM5`YK#.`e769nq#h4z#6am1W@?y/ot5bjOe=HqI|)hl
1vNJzxVGKWRp,S1/*&%is+jiWc3@8nE9p;T&Md<.v5_jO'@uV/~%<aG(Nwv!#<+>qC;_i@n;<E4hfA]de2W@L@zXmln5U=!v#Ox@
&r~uWQJvg|V+DhzI,^lsQ0<gtf6jkmM^q2pk:q(hILJNTLct7GaVX9*_4GlO^PLsL8DClPrS7kI$,MXtD=6Stw8O&s?*9jSG0owp
oXUa_q&c0>0yJ?flc7.~aNDgPBH>wqz9U3~)7kes?TM82+`2zyyPE%+2+.PLWWO!,!XW;yR+xc~muPVvhssMT<>p_+?;EQ592C82
mtu9SYZs!Z:0$@m'mZ8l=Q=/gEJ|~p.#M;Dc,&z;q+**$bSIj>&Ey$Fv10@~j*G7zha7`*g,@NK|ghDjN$X04%Ei;Dy9slZUcT'S
H>|nWKcMokF0weDM(Oby^:>vufpMv[2NR1l:=W3/kiCU~sh&ATT6NsG%19#v;5?ocg=Dm%4C=<Zh9t=%jxLAF)x]lsgJw?xt:%7v
m$DOSI|q]&dM^_Z3V~F;Kr7gHPP20h6A$E[(Uv[fp3)%0#=_@o?@xz.>wDf>R+f%DyC8>RrI`?Wn'|J7^=(7sg!L@S9Ek*;k01Jt
bJwzSY]hodIyNNBK.%X*n0YEh%Fqs=U4*P_gW1=iGQT[8a)R1~7Lv./iO@,Dau_A5fu5wA$?!j@02uJ;Fa$8V?0Wzr=uu!?YN=a`
L6TOCz@:zf9~5R):=PM!A/n;Auxk]Y(Ab#PObF@Uc'>PT95PGt'rkd>.6bNmOZpO'Mlu8xY3Lk0G0Td8:+F#GiR=nK!R6I.VQ$TF
!f9U_O2.|[n=(wuI`F7[lywn:?a:..brT$YA]v3GXY8%V)]N^Nj#FH>joOK<3gPR|sPB;7poO'fbr[C^>iwa[*s6XAHbESTP&`D/
cI1;N[`Lp]G:fZ=m3wrlOLPtUyL'j9&Atj_:kq78Xi8e1[AUBPJ~K:UEMb@KyD)C]nX=taoI`bIa7Br)E`MY8@DN|_A:Ov#0)|61
`.,G|[Y5NYJ]X3DwyK;@Sdn/qPjrG=7wkcjI3dYaSC5@jdi02Y7rrONyDtJ%S?cb)ULF+S,'C_^^pM#Rm|e`7J??2N)zPrIidn:b
7RATm*i.vNw!)t^5RUqXjoO;LNYi')C6d]PR+HAs,.]tx^?:IwN/)*7?%qLkB,y/LrMdqR|=`;[zMs581UFPkwAuTPf+p98jJK@k
JZnaN!Xp'h6nWfJx9dEy7H678s<s'1J6>!lvYO>0leN#>.+GTY_au)W3)RDSMd8Jmge[0eM/I?zDu$8;_JR~P~58eqq%B*scS<?N
tOvouX`i:_<Jw1fK2lysbb+zBLrZk,GCoz&12wCg$@HzV@U_[K;6Iv?]bkBR<Vp.UB]_*1Y4%)X=)j<+XjWzNYLBgd4P3e'vUY6N
,@__A[x?PtwRxJp9dIm?Ys*V0,Y&shrjyDj.~;;SO|+[/ezG(3@`#)9xf8v<sI=u)eDs]0OK0=1&aN,atEd[Rg`W~Hl9,q/R([j*
|Tdfg_2s97IzOxrxiIh^aMD;Suo&Vj@+GV@0!6_cIZF]Umk#y]!]V8?BncXWk`/IJjp@dlX!6IJF`L/nNearHcVn|Yyxu=kXJD@O
R_)!6$TVcL5xhnDx@lbqb1!,>NM[P'VMX!L+^2Cn*hJMaqNmO#VN9JnS9nge[kkmd08JeP]w`:@N7bsTTE>VyNX;xQFAFC9$EW8c
d:XngXIsmIEv2[PR=O)MFFX,J,@b:UN4`*U,@0@X!*5e?UKr@z3stp>xbehR#n.(vlBS*uwqj)KCp~Sy.Sy4xFyja|F:T&:)dKE;
Jwd&K=O!UKz9~cR2yLKzS7Ql#a6><Za/pzVqXi)6vz^c,,H`g<|0>'QPj,DdC&Kx$WhVRwgN3XB$Q>EXhy+lLen.7#H3/4y4w_d,
[0ACB9t_xDMF~NaFLij2vCs=c!O[xKvGRs!aN:;OnL'?:q'1.STK|~NBr_b|Edrmq,t.vvQMXRCYEc4Gii&/3ky++2&Z?6X*BQ9$
'yJgJn,s,/Q].F~xZj(0baiz.C6`I%Irg6@*=Ik[SrKEf8)|CzZUID>#FicI_dZK%,8sZlUUUodkk#It2~bi(^RCacHT:I/_RgV6
QbUx<R=FayhIg01#SQ*RI*:BPWFy>J/JJx)@.(@Zx5TnR'=V1vX=CBl:MGLt*X:mfZj?`uVAt^j,xF3l[<||<Is],c_aVoF$e])V
<hN$?ph=z_:Hkwo9r^B]RZy%X~Q13xo6N:Ek<JBxi`r![hw'V&F|;lojhLf7gO1dU@nOP&Jcb*3@,.iD[s<Wh0#=CvPKrkG3M~8;
*e2/~ytN|xDZSN1#0Jzw1a,[2>F$XmHjUhjGnZ$?`ttdvk*RIYo)/IML&]5h#3edCpN7y`;^Vef_(ukg|:KLMWuhBqXMV`!pS%j<
qJ~^Q2&3huJou@k`Twz5]:7.dN_aYT7H$1d9b@q!lv<S6#uQ&:xTMEL7*Y#<TN2VQX9Pmg5Mr!I]?T`l8$1=(]DnL[8#EPz'ejS5
=GS#nH)wU[#:8+L1U|;!lJwAO!Dhy!ndFwnNT0#o:EvIXjdKwDoIlH@x9JsO73qk]3Whtep_YT_3]4T?7pY+C0jlhGY[[)o,O2Um
,D|JZ&@19hFWW=2<$|%Jwkvn']1;N;<Q,p9IFg*5p:0rhrgY*Wle98.NmC|=;?$[UV11>m#~TO[+@,vAfXr_$v+oJ$=hm84@jSW@
0%e9ATU13aH|.lXYXF;64v5L[BTrEdmT*[/CQO@#%.Lgk,T;8bD*d4S6]tuO1mN^r]%&#V|s:HIXYH'AYz<16~Ruo<4XW+8lHsBy
6/IMo[Hu<Q/t>oIxXk#`Mh_b!Av.]:kL20aXxC2m~;8]=j>lh>3E)/|5uv^<xk=&ht/2;OUw?NIy(Yc_;H:>4M!jlWfu,|=T@,v|
cUoWRQC~T5A_>Vv1>$1PRlzjG0.0dH<EJBgqcuQi[@<Q:,$ods]+o_rlA'Hq0~,THsV|o]P.gHqq(_V(qc,eT/z=4A^,Sp0rw9lw
;MN:3&ZafifWbX%`m%@HT83<;hze?199]$ndAO/p4$S4n;*+oT[C+,I?U7i1?G9#W,w`Rt,L~HhCfd2r9F:XAV[Bv[6/=ADL@k,i
9Oi|~uN<[b5BaEb6/sZeAB54BAX:DPh^Z)s:7xGk`Q1_'b:IN(aVK@Vxrr(bRff1`nj|^B`ytg[9;LnJ)m;w=6myHmM#iKQBDNQ9
r+5qdVZ/)GBynL:`epP9ER('XTj?FS5/5IZII6tlN(wO1Y(Mcvs>9TWj(NLQu+Cit0rR)z5/>pm%L!tqd3TieLfteLnE$T5u`^Z'
*sBh<_`&];cn2Gf6:yg5.51cf&#B.s?PBLFe>|wc;*ceAJJeY.98j`o3?Ya|MCL&mikDIB,o>w#@uM[d:c>D$2hrBZ[Muw^rt=[O
',D|N(dS9W!8#[UHQ!zw8T.:j&ZK[hif+XQ^bx~TM%1_7l=']u[f%x]bsFd0!wt.S!RQ4CG`22T5OXW`dXIB6l(3l=fDP|JVflPe
1o4&rkl0k^eg1T_AQ.DWk(s<~6l]n`VR]YoyCp~LTc=E?3+WbvX#&1'^[Rz1M4W/O?(!]js[&6&Ifwwq)qk@'YY,lwVqO8;~Y%,|
qcefBn_`[6]Q/9w5CP!@AKSn1mvpP2s9qn@OkHd9#il+UZNEgxV'y4%4.:vAgabX:V5hquid8W|hGtb7MN?s8`+<=GGkuBm<;S7M
q(apQq7&wwj9p%*DTKWds$t+lWQZ0R=XvOu3UuAXB[algN]73LkqJGuobnQRBoWHcB]bYGeH.MH[sWRN+.[~3#5cd|pt=mW0|cq!
=7AG9:,7p*0w7,mRme_Kt^f/nFBGD7#b&=Fc$?tE6>5;)NLRk41Y$!wU;/ILFQ]L/p>W+)ETBprJq~mW2V|g++@UpyQ3LEd:?zdJ
+sm**)tl!I0>p#uh=RfQ[!V!y^oLN&N4&N,dRE[4i(P~,&|0/$ae)5KsQtB%Gm#$%L'!nP@G(>d|>sK?k1?&'ep)Lh'>MC>33@,7
&uzNZ6IQ[8pvid>c,Jh^zdc1C~q5`7J+;o|[+a~e)bAYb)Be&4K7[qi<~l%C:Tg&#/ZSkCYN*!a`vj=60qhWgm['g#TrzuAz(^zX
q+uGDzEh<JWNH.)oxap(LfCr~,ZjMHL028GGw4pO490rIkb&r74jx(d<y~?~?B((1WT)[&CIU~rjLbjLmBgY1oF~(yjVos>CH#ya
hTx/Z)pJ4A|=X.K2Y@b)$?.uyOLKsg!^b%CY)UXHV!8q2I`IMkN!pml_she4:ubPu]*79_~G_|DPS6g[8U!32V?i'X%t1@%_MY&7
wu~ge^I>aFa_hU^Ph#33<3VNvLmBh2%GvS^'b7I6lM*tn7~U.v66EPXALNo#s6.=PsAi`8;^lA17TN$+`ELA4sZ>4pK;*kk[S)55
v&_8|zo*&O>D<hWG,<~s,[qa&2L.#EuJ'W.3,?W*bM%~lzPeh5~zMCva*Yb?xzL5c06l454.SO,y1J.n;gP/$[010Y$ttC8nI:dv
ogCa$T3K$DsCjcZ=xC6b=1E9OI|q=MJfX1_1|JN/Ks#Z6$,g&#kSK3dt+!!yal>$BJCaT%#$yz6`XuJM*:[yAbjoz#7chM#3gXsf
ahhn]U7?Tf4@k=ITxrwD_'YWdsCB.@!zV!k6wv^wY`*7FtcomyS'UudZ6hD:u@N!nblsLSu[$OYg/)$)u@wcW~~('fmRvUDgH@_X
*Te4L:H(_*U`Vh4yC01?&Lk4Xs%[j8,;8x5F]y<cbd_J*ZwM=`da93v%y%0HY%]>59?qS;BgdAnaSosbH,H`rl8Q2>kL0t!9H;sW
j'HfY%n7S$T+^|)5.%w~BtMzBN1S3g|60iW^&%3o<%j<]r>In/Cfkas1<bY1SIZ2$;^fJ*]CUk(JKwMci,2oK`Ah~C8OU(P9AwRY
_;TmV++YAfDurn|g2O)O;yz@ygR*2'i*;XCo|wzPVe|W@jU4TW0ppT3|toN)z^nD`IxuUMmX^l%K!$uBROu1FmB)6r%X==v|dV_O
Irfz.(pIx_T&v=hL:vxxl+o?@jO<F4!#itUXQ*;k4qZ+3,;,4pt71d^zJ/m~8KFOwl)6zy#TU5II)X;,+(;K'(gq=Nass'wq7kr&
uCqX$CluZ7,94eiQP!kkn$cvMdphS!]ODs6d)grqtyE=Av!X(b+*RlIR.s(gRL4MPG8^?j4s:Y8+/b2l^C|$NaxJ|226FE#Cum73
j#jY)E?/gc|.+=qp;)='S2=NXDi<F7fBzyAynYgM|'*!uTR=#Bo[Jj(tpdrwOD[lBi7A$HXgJbfiWp]N#f;oV<NB*veA7zHbq6uL
^e%`DR.Y0uu/U%]dm]!j!R;=as0YKd5=GFXnp[yI7]O9[lF;I%uA8gJSv+zqz_6b>85'>1!qp6_M;!wT*6Se9lkx[*yqlmV;1]gP
HN^9(<?w@|bJ0QvXRVErt,!%Kn]G<&L!(^u!fyXZ/7!+~[Pq0w+$Gn<g^h@hSUd$X=].GH%bFZfoAiIvw[$Hr)46TOcmd@YVy_+y
D<,n:LYjqa'bdHs>?wy`6<nTy#a^!MHl`z1hI''[uif;!VpRK<Vt`!@x3fSek8spsI`FsD)10jeu)K%6+Zuur%y:E0z(vP['d$X<
i$uAu(Jnw0v]M%eJO;+ggHlt_sP|@iSdhep^4Qyq:nxSP3Ek!B(`v`Ymw4zIbflA=6!bO`u$!TuT@!Pd<g>a1<a8Kbg.^).]=S(c
79+WqzC`OWNkhTt=[=tb)9wqf[d%ppsF1fb+~&c&/f1:dXu;h]qtsxK6%klUH<c3'vSYwd@c9sX_FFf't)PhKyQ?h5eC5r#A/vTD
[;QBdV`0=B+$P+TYUQy&[>ZjWri^i;p3f:@]5D67oTxAL27iQXc~J'o*#c0bfxt<f?;(hE;JnM4/.7Qr^6vpd#NZ=(?WY,T[/*C=
O8vTUsPGh3f,s8[)B4N~hxb`56K5U`cLq~;I)qlnZDzOgcqWIepY]?((KW6xo3+b%]q()(='o|p:ob5,$%pHX*yG';i4TX7X#>U
|@5(KKA(>yAuLpH9(l]brs/(G>F@~J_l<532kx^`!']qW9e=<cG`'bRbQoqm;@UPda#I`>unJkH6HBp8_t$k@l(usn(ebD=*`sng
KL#'5=W)/N`DVS7)m~;*[2+=LcGITp_h2;l50Foo)rvk2sQg&Q;x2Hr+w=gmSo=N(iK~@gi2.bi|,fiet='8j.(qu4<pD)=mgHp6
;t^s(RPUq8j5U*4;K[@2^xf;ge=wj7bJcq7(fRzV0'lj*0|X3:#T6k#_CbNa!:[g[7N.'Q!c/)WkWN[[!!z~pzAg!4L|!aC/SS6)
AsZKtrEm;b&_6vvF:o/t?oN+qIN_y)+]X%W5@JN'c?ofz:R6WRzuoIABy3W|7C~i3GGYY/x]*=R[EmWn[9dPHj&Q<_XDSdS,oQj?
v'~#PlJ3YIFI057[1[vw9|x$t_FdLhnBy~x!3yYPacmlQE>DdFd((29]v!pnAJ>;rig*A4@f<t@ebUWaI1KJUKH^AE*!7L.j(r1R
j[E3=P@P;3RB(4^GRhusJiaF.w61wOzqvrro=kJ~FC4L.kfa3]Y_Wlw=xJQ.(>cgv7Qr?FM2p),<F9W#==bo>8<sr=&p%$8(dz6i
sXq1ZL@7S2Qa0/.uHP+]9~Sne$HxAzlLX,;,P*4ONrX&o?HUlrYiKgpDT)kyu*A$:.2/!>DEy|~Qcyzj)gkPn&k0TTBi_2NQ@xRQ
Bm>6wygJ0pDNtT(z@>PjM)$@Q'2_.GqxkkjG+@`cuMV!D#P62$e5Et:OISBh;[=efm=r!y9VH^coB|8teD:kS&myc=lh|kz:xF'P
:b>$gYo673dw58/?,.]C5B9?faJ+h7H%O`^|dJI>6Qt8iTjR#[)*E%1B6!U6<cd[Qk?r]Ow4bS0l!h[DtC8$f=TK0Ga|nX'C(8uO
aKk;zA9<+uN!`O6INXeG&B~TNb8Ku]wY:u+uv;1u@'h)x#(=cLR6Xs+/QV&kJ1mfgEz3aQxVpmk)Sr<yK;jhxiKt'j*&?^,qO1s7
s00PPU!B$;~*BXvl)8)lSD/%k=UK&0^U@C#]Hz`CxQFc*op4I[Sf[~YggeT/04'?),g&3WUHxHF,ZS>pDItgb's&%1d:MMg8cZ?r
U/G<QJeCc;u1[X*UCXo|8/8X#aeqP8z*z@hrO#K.Mh!WCz^|u6A(<E[n4pjQg61I$?_X'VuS!~@|^&FWh+|JsYQ(6+OIC&`QG!E*
]'*!B_2.wY#,]I?Q|uiP0C]BqTGi^f[/ND`u+5We[A^_hg<)F[o9`=A]6OXXWFrsV,4)cM)Kk/D]N%?Qi/B~Q7dl,mQI8i)0pbT)
vA=o1#lN~rFErS/288Fav0sa3]GJsI9v7c|p~@;LA.|sI>_;fU9*wO<@QiA^jd6$x|K2Vo^F]v83GY)ds6=+cD#Z&fD2%:M:js)z
]7P'e3iY*~R.O.x:!iraTu%`y=gh0Q'l.ng`Arib;)_v@[cE(/^g!6D3P@P(,_%Oi~!.7=J8K,R=`rrty2J%@Dr#^r(MigRB`C6e
G4p&/wWk(AlDJl#wvYq]1@aSbo:Qu$d.BfQ(N(%'DL#;sJbKoO2(aS7P(Qz^oz[<X9;JmITq#xVdhl.g[UeRn_JsOS%]*43*wJGS
YB,.&VRR,)G0*(U*;5_)9ThWwzsz+[9p6g$neTs+1;5O.zq1N!vmz[k3E%8QLALU&WhD|M]QP+7O*pu@+&uDPXpjeR=oA7V)lj:^
UEf)|9@Eqt.^+|[k:IIOztX&gq&q6(cJ5m(4y&Nlt<~gLZG<suGduj!|WGn!?2/4h)0ym$Pk`*d3n,#B6XoT8cAf+)5WClNF@KSE
]wZO`7B?e3eIL[4?;~Sl^'3+*b:J|:,TrR2]dxDa^6mHKIaxn_j(s?l<w8t/_Xa08&?,.?XQm;XMsqOA+)[JLhGsg'^|S6PF8J^Z
2VtTHGSCloFQ*Zp|ZRdFMAm34p,N409^lN$m6c2zm^O>0[uAZuV$r:>@AEaZ8jxA&wQ]$?G4=sZ=,z;n,f6tEkUgx/jeUQQ;Q~Vl
rUx10/Jhf<+C#o|>'V+B?t(1qtB,Oc?^h=V(tEz@GxKL@];u90#n6Jg;ZOyn@Hwc8ezm(kIg::l6sln=[fp!n<W#a>xtQ</3/K&R
*@Tp^|5HK/NtbKw'e5rd6IG%Ws<IRfi33;<wd16BRx]3:w^j(fmcur,=3FUmD!hFI]HxG5u^7u_ed|?kOD%X#H_:;XkoE+Ee[FOE
kUpTvIFg;yxA_,s[IjAR(Kv&`edr%hsNfH&/~bQYqj@i^Y:LOFP#*,@RXYi54OrsXz,U2Eoo0:f,^rUdCBKZaX#9+%FD7.%CY1US
6F|yuLbz5nj8q1b_k59VNDhgd5*7uHexq7dCRL8fYLQfg)7m79l+9M+^H%!a09k9p2Ce=sp7(W^Rrt?Pa&dIQi7>+Gvti2F+cXm9
,1aq?$@@A!$(1HwEHe)`.^ztvU9Pj$crA#g2^h4D28T0N*G6i,:+>+h3GBIo5sLX6/6QWvGaa(0GWCparow]8+nDcNW(IioM<n?E
Efh<IYk?qvV?]v0G7X_vS9R|xPS90H'vLOJu%iyOnsB|!,Uu,:Wg,EjbXr;<,Zo%HxA.4&tG!N>W9HpSJ@c?6!~wHGQCX)]a9Sq2
pT[#xli^#c*U>V;hFSgFT8h|1LtBI<dBTq_gS`63vY~vL54C0jAe&y=Xf_OPf(@CiB8^kZu/3v+g0y`8rfl2p5ek,$G^(DgD/Ywe
FRW*9<Lc_p1)g488*v9Sswl4z).2UuTJqUxl&9aUJlMS*w.,')Qc6R#R!VjMDH,0v%r+4OU9BZu[oN6ap!'%l;,D(+ck0Rt#g9VM
2[;7)jX#.e7E'kqgsw%bw*Q])94sUpEg6MXdb<c8KM?1se$#z8pv(~2vF?iN32]AuUn3I|siJaiO/[*k/GImmwMz+?WzNpGx9lPt
,^bDJzhyUct7LdefR0l[X<Xk<wPo8ldx!i<D!y+9e*eP|gzi/$EpOh;>^Z2V5e_O9_|J$EIuvs.=d[m)y%4,$t_]xUtE:o3EZ'M<
_5iUqX,)TjB#`[K1=Da$X>^+d>n<hQ&h2?`3[nZ@J0D<*Z&9bK!_=$7yU![O5VpS2Lswm?gAD<M]=g[JoFf&?8%qg2;euLW+?ELf
SH,I,1pD(jBu;rE4(>WI,q%4[8K]>WOw.9hU.O69G?qSZ*?.#DjtK^:@JEhN>k3(t3F4%)q+Y+rOB4bsBVY`~Z:X>i[=vu)gYP]K
(q[,^E%FFRd:x(dM7#YcW'+Q3?0^I2='*f%G$M3PA1Bqp69/hmad,QS.`R43#sNMl$X|kInXHY[0h)V&@IgBp*Ik;fK<NOrUI]%#
lVkStmYJX+UF<T?/Mt2W4^^o$ZE^REZKn12R0?abU]WEnJ_$C>^@34LGX(;qFJwWzo3zr`/,UH%6sS<`W:s4C:'r7[%sQ<DncT)|
(D<.L5O3#c&pqY$(ejkgV(aaqTe)(1dJ:7~BJMsSFgYWw~98h+vX!Y|.$,FOfLYV6#^*+%!./3*%!G~BYvt`C0Wm*cn%it0Z<?y,
!8'qFspB3N=Chyk+:s,<^L`8#R@MV7LyI`g5!y05KIwN[)%;>uhg*|7V4Bld?;ME!nm0e]g4=QeHz##j5]f<Q2[7s=F?|`=`_N'a
wYPN3pR!,FiI_tIS7okwZ&ZS,e,&)'.VSKosyg!VZgY]#VH&NtlsHc_WS[p2sS!m:6%Uqe(7TWS'wqoUMs<RSfEHebM4cmR]:pPH
Q4$F@5y_2,r%:w9yq^S]E;qLRpK#.5u/6/Xn!g>V.+HL+Huj(1r=6`:#az:ySX//ap,_c6<[xKCR#zzK_#l8jcwwOnLpI[toWN|)
[6/~~wcDTM`~`M29yfO>w6ac_DE64~f_xQ43HM0Ns]TpF<^vYC/M@i(Uz+fP!U'%663Z>Di4_reQHR0?/RYitun'7J@H)L:s3(Tb
qRWmh]LdB[F(v7i=ORJL(4HGQp1*rQ&QV<EU]G'UgI!UaNC;wAbVSfKdfmy'XNY57?@rzkSA7X6c62T2iyJ4t=H/?&v!mRJ4gG4.
f~TelNlh2=$9k%ETnMsXci1Hb)1.j53rhZV]`roNnOcMjoBH'>62EN#+24>X;')$,i]RJN|!:M4guMHr%k539;Kn_.<N^MkyhYZ!
xlcC$+W+`Kc4#d=gJ5Y3sH&h*m*i^1Q<0q6YOHEU&V/'BguKl|=Q:.nsN?(n~@Ko;ZbCadc*=,pz8jr+Q0C(uE@JPR[tN<mzOW<|
CPMX(B'Sx&U$x6N5=3k&c2B$s&Y^cSd|jVoV0E,`x<NImyE/?TZOImN]w(Il6*q0VO:2nOhT~zZ9g,g8$!vc?O$1.%iNv%Nkn@n6
3?ZAK/~E4V*35yKcwH#w3;+my~,OSV==3oVf5eU|<^`866s.WoJ*#c/>SZMg#50??wtbXj.Xr5;Zn5z^X1'PF]xq(9Y:$zp$M~q
b@yRj_)dS`!=MX%O+N~DO(.d@7rSjOcq~'Z'uF>ao_U(Em*Mr8Mx|pHn3d+0keK1~Qg7@Q>ichLgcEBGy0x+:XtrR@cr4z<|=;&&
^6p0JoxCEWLT[7aWpw)o`G+0Gr1o4iYt|<BXa@905/13|pbIczC)mleV:]_:FbZFu8trT.BxVTJ#7~E1n<1bpA`)!>*Wh<B=x~+P
oG]JwQLQ]lbR@CK?S&B|fYFQAVFxm(g@hRkO9AVTWD=itRkt[mN4Sn@8a<m(U#QZl02Q:[61cYJJ_f_zVi|i+kY`y1t[Hz3H#o!j
4S5APmxu*epjnvj?rm?FVeh<*Qo.#CPRW$%m.tI>T<NRc#3yI4[gNJ*w|?*bGcdMgXqY3/hj+Qxs_+w6)%L+t6t(t3cjFs.3LJ<|
jlf<d;L#W%]7.nQQdd9(GP8f;cu%*5oRQZsd~Q(Oq2C@o7'jb9]gY0Cf!~_f6x;1*j?'26jVUkfQTyq8.,kyT~2oN7%KWlofqC3B
v%G92qRVIZ2,KlVIHA<xlYpeL`cj0;cROx!2zW@x>g9S78NmvB!~|[EF=Xf?+onI_>m0Y$$'H$tSvMx.;;v!sS4ZI]hgk+7Sq0')
ph5:q|.q+4+T6dGW_VUhnV)ooQh_#)y/.'0&vJA+9M/5@RtlyIVKf).]vh+PK>lBn];s<%dPemH&@j#1p|0uAMqrp++2:Ps7W4rR
*i@+j~Tvjt%I_.t~Xa~8,=:!Ec@XVO)(0gDB9&9dW#QODK9uZ|gK.gfd?9<f9<m#q3_sUQ^;2v.&Dcp7R$U845A@h`Rkyv,ku|]'
=t[H`2DyR>uQqYa;'h2`Z[SVUt_,tW9Jf<3,k%&_=PBbz6RKy8Kcf~%UU~M*arVy]w52#@n^AeC;s|`mC!K;~?jFS86J9Sy]Ex@*
)lB`9l+m5jM8X:eG<d;pIPWL+C%q;:T,b;f6;!u/BBgFxf~5`N(/3L<]BA>gaVzzr!YA@sLqf]X~6h%n6R[+8<ZR?dR.Ac&$z`]*
6HOS>W@wGzOgH2s.7O<gIWtw8$K3+oW:*:7*84X_VH.NlsOIa]U%*Jq!380[3CO@(:V1^Qwb7WSy`d8+]<eJ[*l(`m*wK~dEG2n9
zVJ(+(ui9M^pMT9ll@~SJuLrf&H)P=z_|r*9x5dl/VcMrXU<ISemaT!6hLc]ENwL2P$k!jbdl8iiw5k?efch;#mPY'<OjLK'SN&J
|[4Wt0#d)Uk[+GDXAF#h.uosX76=B'+elXrC8d9jZI#;'lU&VcK%aHp[JD]x6%(Q,T^KSBhF;D0=WWf|#7NBG00UqOHgwsXH|F'T
cS;cQUFLEwt<0':GCZZ,u0EjhXgk'5Budq7H)hlSAQ9k'?|f;g8cU+=[yh6md(jX&(UkIM@&wxpZ>K:n*&?UujBtYJNF!T$6;,kr
n^zA;S2Ka4+'QFPHj0`>q.%a,bk,e'.;AVs=q.U5#[HM<T[VAYrh5|LYO3RBrH`y&E0++9dckq2rs9ilEm#!WVdtpGVuV<]r(+#_
%i^l[hTEM,H%9G~#AhtxMlG*~,?N+X06l>@|``9<C*1YRckK=v=Ks%An<qTOZckVVadtRMj:>]6M/[_I|*Mqy7&.9H|UkPB[gMF;
AXfw2.v0u1@.G>%i5d>`/5u#0|vEEw!B=[d_MHF@)#BiN=Ggc[^J~v^d%e*!OJ!2q/(f;+!x&+J:q1AtStd`ih^q1XdJ4[BT#W86
762TlXI<_~gVnq3#Rw0'7VvcR$.(;dO/]A@^A^Y:,J+e=>9dakB8BFC!RXB=6z$93[ZkgFK'oX+t%M=4#S~IW&9bEY1isqI%.$yI
hUvMbHR9F)_8^RS[UBS1%8sn$kn$8*:AfY6o@^C>%H'V[d+TqxA^3>xsr[63'&eSv5aH<_F6m&:*A%cjM[z>it^(O7a>AVfcASZ>
zuU:_WHPI7.0h=f0=YeGRTJcSq5Fbudmu_Z4kTg%)+Rc:88X>DDgZl=r9h)83|MkiNKW,O(zfo.Kf9NHY%Aj!>pWaKN)Fp)'N1!x
P*~vadIzCBV^tFJss>1~O3dYGKM!vn!|)T~yX7]c'Bo~XZBT8qrH=,RX.MNNieF6AD4*HZ:o=WxD?rd;rtZ=1m5hU=5Kk`tiUA(R
QlBnEigPJH)l69ON:rz)AEr=22Rla1`923_<'ryLRsoKj9Fbnf9aUSP<Rcf^Sp=,_Np>2!vNXyHha@'$r$K!VKqtly4hl$ik;K=9
>u#I|^TWjIcRMd++Z_kV'`MdY8jUfZe?NO3JzCyQqk_?ksLolaKGS_QDPL^5mEEQn]UH>#fy|:8'/`'|NLY0h>TtcUWSMv(T5g+
&#xfPC~v!,]T.,&fzP<)i_IAktZ9(jS7^W,$e;EUi]?N#>^U<.46_&+]Zx='<N6<W6xj[B8J99Y6/&?dAUDsJ7')$@:8I(b|<@sZ
G#@7+,'_D)/spINUE*1IYINHi`z%>|Wl)[pHio9:R><|&):i`^pYbF7e$wUE_jE~_?n?2I;xXWhOL)N9>jlk5/F))RPGGJx_&9=_
^X&N~>xlkx>]/NB$0ll_i`TQg6X':9$</;g($:j3h*i)AO>t!d[WH%3:XW_#V'fBP80vqYe|+g[j`|B@ruY]56q0mm21rQY[BWz@
xSO:tw(d'yWnc[8CBA$Q%HWracVn0H>,&m;M,ww;!pgq8b,@TVmbtRr`Th&9MqNH0.J%Pp=O%XX4|0f(.'^@Cc6`>NLX>$mE:pBR
`L0F0WjO~e60vk%KA@[kPzKW?chz7fVj4=<98cXq#L6;vaIrb[@EH+3#QfB'YBwZGu[yKZ/?3$@K&En:w~&/'s>!uAs~>=Z;@E=6
~%>GtaitDE*W60[*(AM`o2.NAfv^#Q51X=b.A.jr*sKEv7v]KJ|mZ:+<b1FjeEE#[JmoL_588(=`kijz|q5/|0_1NQ<fgktj&!(S
lp^[`?DW'>od0d37(^5|/gc5TL7m[$+z&Y70?B<4&VqWE1|%YG|u/4~9R(0]j1te73b2hh+ZT~a7V$Ein>Q<~5yYU=6CL[:OnD't
^$J!e&eWI6QQ4=;yxS&$3n^Dj/`<74~hG!Xr%*S&vTL,>6rL1~3W7mUlVM0h@H]LgR.7C1;1Jc>Vj%Hq=Ja_I;y^m)TnJuOqvD0&
ua[@$+ZgK`;au0L9q(%Y$lC1mPn]P39]Olw!J/L:bHRt^czmLcRFSH(oW/VLf*CNM9tYc0P<</uVe5Aa!vJrmz/VgwJuvVGL&jy8
e!qYzw&GDB58pjVh*:/YFKRd3_8dkXG(fYVZC*^hA8tfDreR[FqVO+dG=B6'SMj<<B43ke_&hkQ2EvB9y2v0Spqe:S,#iF>b.ec@
jG.C#JDIi;E+OGY'C24krY|@@E~Q$Pl&P:MVr;rOmB^25'M?>C_G().@@'0k6_1m5wgoMsl,K+7B6OR%2`lO!BpHE((m!6Rw_7$
I/Q&ha`pyhT]/Ipf%e&:.2VNL83k+8.]Zy;L5WO<CPh+h91>_Tr_?SMv1)t&|UW(g0/~a/QcNO;kO2ur2S>ok'(_)>xu+gj@^9tD
_Wo<d4@`f`;(1=B?<Dgk(TDoBjDoG)5Z/wZX2fBX#yQcP<Hh8M6Hj[y/)wHA+HRu!MuC5js;df=zrH5.sBu^cOB<)YVtTH!$++rZ
b;;>F&;`2DId^kfw_lo:hE'rIFmnkx|WjXAt(S(J+ljg>:vtbz+e?CUkr5P!^J.zv^^=([F_HaGb@%9ky+`%)LT^&bs0`[7&UPZt
oS`kIqCxD6pn[|JaosNJw^|iyy8G0zIRLH5X.8DI(!7)[/A]2STTurxG4nw?n.4pJ*7:IK!bJmlz&korlkD36ObC!VLGd&~`?!2Z
WD~ElmPPUyoV,6~*uXW[Yrl|Ty6%a&;<:z3XlFk^;^Q`r$9Jw!oak1A=H)i7<Tav_U|vJ9A7Qk8J%ub*$BhH^z!/VSoBb(9CGnm[
Z(qVtPQF,k*`;yZI!V.u';csviK/xL&]%h6gKDb!|NORT~a16d_OvxWAiZu26+|wPgf;W2Z=qmDhR,aPYE/w=sX;cl'BHebBFQT&
gwiq<xzOeGYi2_y?=^fBA7.$KR'l;A]=V?rJqtlIn[YD(u&+Z<mcqv`79HIC![vS<Z!T7&)U(~s,e)Jp^ktil8Z#nV4mtj`baaq5
d>2Ya$R#h+6Q_^8O~i=Vd`2S4>%tDZQ<!h2Q(64jj+=>A18s$[<u49!4NxIA$:VAw6:2AEnK:I36![@6TfZ;@5.Z<KmVQk*IH&Hu
FPFf9k0aQ@4$yLF>IP>[l)eP,Q4O:vS1F|Nd18dgVl:UzW.Dl^n+]|$h+^dAjBr~k=T$Ktf8WNN0iOPD3S7ObZskjS!+|XEe~3Q]
NpiWG^8x4)n(YK+'igkMW5d@&1!aUN<QjR!D4A_tEKt.np8(JD)zaE2#q_YF>@8O26X8.bsAfFy@,.9@XKDQ6jFtpVHtS!?QJ:&r
sfvINlK+R`kqXTGFe5t$~72+?ilE**,@18bSR?J0JanGo*vNgRd)Ik2Do@paDXM1'<p~%/[*)fd'B)(|7BYPks.xL&wW[|QzYwxT
~&v5CNS=hwdwX|V[awNv3T,&lEQ#1s8u5v1_E#Nu]+CU253%TtZ^rTlL:Do>P/e?U<;j0H.GwbTkln:p(YCqtJcD..r0+/W#xS%p
.4ng:*cR`&eyTTklPnFi!2RI<:!UJGSb'KDKDUnX_lD@V*jcqBx+ZumYI6`=aY.*q>jZ_HeB;|cF,RK9!;VYT80j@%7XCn]gfpEV
ro!GT.hs:iAEA7i>BJt18XjqP~_),l7q57,W3g:veDdayKspjPuR:n$:'Yr63$IM>+>zg=r~qkHvRgFTOPfx&><H,P+<pMS<oV6!
GrIVOTn3Cgq2>aHVfcszf#woW[F;#2m6R<sSwg72,);EjrxL_PU4,jRZ,,QThg4y0tsV:>Dj1h:7Q,4+a:?_uc_x*9dz8YTh6paY
q1fJr*$LkLg)va2$_JURkYWv*kxqWE>pzfccq0G4LtMDx|ZNNDQOUf/<8.|E'./H$XD_$hD5nJEL>O)xRv1,t)=$Fnp.N8i0B,%i
p>F^j%q[dZZ#t$(=/M9<M.`~nu]y|N_v:N2^,x|`E55X8aib=YB8Rq48:u]kAD:#H!ob%1`;>182;A|[nhMABqrEXsVZ,0+:_,[U
s:u*TX9~qq+uc5jWCDG|=J`!>H4r!YSvJ0,w?uCuC1@Ty]0PgVn%qQz>ZeGA5.Iw+%k@<^.To/oeqXBt+gWu1ym:,YnSL3!dG2h:
+oYPCT_6Wab*@^|h+iR=2Qj'd2/x,hwv5KxJ:xC0t=,osrJScoMZVsq%5hRb>+7ce2.K~jYYR>Krk|Z]Em%V(A7_8/gjw*1V&E<]
dVbX;_wg,X<`+_c,Jr8In8,#atx+[BwGp?OU3=w14t[4)113]D[Wakm&Fn!m_Z0_;8:<4=NB%+[_z!BhjXvcri`sRGJEsl]*S1nb
e?n(gL%*3G~r1i'0'2$Q1vDcYIL]5b!d]/t9y2Sv^I!_1z_VW.+gXF~Rv(W%pl~Xmi;8F3qH'D?s'x_3mU;3*.J<5opNOxHXJ%Rv
;%2R2RpP;|4'4mDYaEZ&As%<e#[aG*UOVzEc!|k&otkhTcT)R!c!V+@P6GuF1&f3a9;Itc.c^wl.`^lH3hW|f2Y~]83GWt+nYn6:
iGeIF*Z:Z.gXN05,zv*dW`1z|Ibp+k|HpO!^G)cW##3#sA;ayci3[ovUn0uw,%`0QX,6&T(e$1h.l'I(2K&C3JC0r>egMj=fV?bm
KW'5FX(*FN`8l]CO)<i~rY9'$suN<$aDh=,^Moi1.ir[^cw^+bjh]|UC_`pxAZ@G2:Y99yi^0f|ZO*Znu9U@W#1hTeQkMp,w>!Ea
&C@G#j*Bg'q(OEZD~Yp[;wwvOg$RH/9jx,AKNcC~GcVTNcQ)BIf=I9%VGH6`~PWuw.9H6r(YH[f,~FNO*CN$1gf.3Rz~qA]+YAqi
6V%QZ63<Yje@fXYim#j5Xw`+@lWvyt*FxA5>&73g.F=cE1`R5+UhCs9KWD&)I`leSU9#rKg+6ObD7z[*//K+SYTqDa;>)T)u]4$8
L*Q/~IYLMSX?B6J(kqHp#pfA'H+%@c+lVo7|KpL6'c[)Z>o[Qb(ho%MGg;dGuRuKyIcmd$@tD%wTktO()PxH0;Gx$9mmuO8csxQ/
7B`k9KUwoW>04Sn(b[`x1@8CPjcdhj3bM;hvg1NtwOjAdD[aa?^%TF$=t45g!w<Br$;a1iG^*4<?V:sV!uUet6u2ut@q4&1ET&Cv
y$j&Ra;cnyB_^=9%gOFP5;y=@NvNZ1^G_E5PlvvO+0%P)Vr08c.q~a;&:UKA8iC+$zgJV|VzUu*/(a)79wV7p~.+lBT<[>^&.6/;
T6M)XwSA6El_y:z]Na1KRe>fwwjIdF*yurt3iXgMV<(Jl/f^YK(6v077G`5o46dn^/9XP[XS(gg_UJ456y`iZH/z^<8k!*j0DRNK
3i'z@k4_7$Dp$joxos<)UD!sgEZSc3A;`P1'6%gVLuZe?*><8%i0Dm=F'ca4#u0V9k]c3]=qWd5wN*G%)eA4@LJ;%YtuREu,FkV@
T~jAP1?bGMlpW6SoCY+D+#Q78)WiE:[)(g;P@1^&93WA=MW~HU~@Mph*!6C3Ze?7L_c8x6&aQRI2f(<*)[]x<geIsWm+zChX$O.
I/d>om4.jz&4Hb<Yi(>s!Z2$>XJhCVmi7sS&]qWrojY*W'gNeDF#rs:?AFw&3Mzj!Sfuzv|b4am`c'nIk_sJU?y~^6mKBGw6~q'y
.B5jf_oyA2h*e;]p(IN'XGtfIh[Z~Kk|S~/m@7^4[OvwLkclE~=k|QlpV@Xs`ltN5=<fhOqUGEf@1:Htyv:i0oK3!q1Vs+mU<EzA
p<K,S?(hs:#?I0026L7R7HAs;p|?Thtc7x[QlWGmMke~4fKJh2z=85L'=7:r<v.t[,*Lt6S,NbnyhED8~jyf5%FdMr0GGQ_PVw+a
h|]d`(F8&4TJB~'Xk#b^`$N!#Ufh!(cE'D5fHdI<71X6JF,@We$NyAt*;TMffpY9u&q~QE1A<pcnsQ)8,K[Q/OtdCw:kb2h4DUrL
7I(1RK)$t)Ku!,hJZ?j.qJ0E3[qQdqS<+4!mV5]#yVEU_N>ifPwPTfYJD$E'n,Z^>DBENKFwH)J1D^'v%+ZE+^InL`%U[538MipX
837l]Wn6u)i<Fk>W1d]))^wO<KK<0F>Ke&+FTa?w(%R6pz7w5]^Yh9(Wpg*gvi;/#/d_*7/)D9ckJcPF,w!<9iH8~/bA(7IkXDx6
p9rBG)lzZ$PV(_lrNm_R.B>:`pDts=ho/5W37)J3r&5c:1]T<Fw^y0*`P,3=_(HQ;`L6%tjevt4Mef(D:86r[=bc<d!xHgcybsD9
]5ZbaPI6?>`5Wl;gS!B/?frQ2bQ9gajfMeJr|GZL&at:?qeS1!d=;|6H`Ghb(Ag#b@z$hv,5$QR?/h.uhXTmFN3[OyUQSi>bfdHG
!W_qA,&XhEstZAcG|WS,r;?3(HVmc)D^Y4ieCby,mbNOv)F(HftM1aerg#MPRdK7)pD8vbzIO?Cw&4CUFEamvmTc<Jvg3E/nZH_a
[Zzgr9a#|'0k9+j!3<@m,T$_/~H(|ov_Vy~Of@?UF@EC,])=oISAK,2`.Tg:a|JM+nBg`A%0*=0XL'Ix@9v,ge5?n=J$u^Wr5_%z
%iyXG(](*[VR,D0T(LP6++Hr_5gD9R%V6#(V]:a6pQtf#I@jFqk`X'u9&.Xw)>F1fBwuSkKHDICm37`MR><@pk0E`,IqJ]c#T;b]
!aLW)%XrW5I!>]kd#V282/['&SW9Yjz7U.1jRq:F>X)8cRcAGqC6fM/P*Em[4PP'|];n?0.omZSc^yVWHiT,d@0T5:rQq_qZG*2k
z4gLO!M_CN;X|<2Ajh|H0v+~H|$Q;4(|n[FzdaIbe`hsl]KLs1)?[OA6zD|'ah7m,!r&+VXZ<t57:3kNt9>Rxh3UJ%Cl!1<Mu~C1
6*Yu`ud?@5Rs6;(muk1:CznV@aD9ONG.Y~OvVPd:gC:Yp/bbAF8MeG*lf7TBHv2lY+fi.Qy)|Q71O[Lcvb?:_Q%]?[!ads=Rg;@7
_MSJJT#!oC5GXQ$?uI7P3):ZVNWNpNi*oEUI)>DTJ5qn#3Ay!V;,Jg,5ea#w~7XaT8^]$lQ(Tz#fm):n(c#*Bj+iK,s:Eyhj+5h
3@mgK<R2BF]kP'pj&~,!)0Pg6LH_<OEZdx<6.9)5!ug/+h,~d/.k'BF$x'.=d@)yA'XBd::);`D#S+Xi,3MVM/+SbvJlOu!v=k3?
q>q$0*6@:^Tc<ng!,;7>z=baQ*gyx63i$;$zfaX,_X@n)GaRr@:zi3ZsU%^I@&6hKe$K5?sA&wr(rPLkP/v']zcX.jrGuPFZ@V&.
2NV`qR@x4Cpr;,tu3VD4wa0P|G=jq,QWY_OpAS?&Q72DU+b,825<%p6Y=Dr1i*)>!(IX+?RHF^1oy]e+d?PRC1DXPR?F~Frt_L3N
J31~Tyf[406:#/EWbB5s>6t1Qi6gCR8&~#R!fiR0OkBR1Eq*2b.UQ$5HAieYk@O3u?.l1)Pj^$u'f64E6pfu8x2/n)C1PE#f,kH5
D;@NPYMnFnowwlOX/RG%_+qXOjP.A|g~0&5kXB~tw70A0#7l]lHwuT3[Fhzl#?qF;ss|S$V~X@N|&YyfYrS;snW&x?@K4CTa%wX=
E&bF.E`)]_e,'u|0WG8~774y~IeqUyH[cIs>/L+G.>?iPe'b;/p*KV%Y3(2D9Ai$&58_h@fzr.&aggD)[_/PTU2.%^b#=mtM$3zY
cC8p0V^L$[pof!|d%EKSc6&7YXn/|~&e)qz]8A^~bI^W1CJ4g3yn>4.!Aa!>1+*'xxz%qjr2Hh5N^(@(pYzJ^WR]t0l)P!U,$^lx
UWj'SK'h+whSM5K~9zGgZ5.Q]#1I%g:a,u!V,@vzzz/D0v;jmd@iMPLZZR)3FN38YWsx%>Bx4mrlp.0ANy82l`?P?Yk%@cO&6_wy
?Np*a46N:K2M9?0W/qh!:|0TA<XQq8NM&:2nDrv6sR^L~yivkS8q)JFeG[R:Z/QAJ01TA^Kwe.WRZT~m.Gr2z,e8$NbpSwb1_DGc
QuYC>d<><Wy5R>o(F:VK|@))R$#]FOFv/7xkg#^O*<lp!95lLG'Ow*@QaOYwl2~@ivG8@b&s]nc~BP^;Kcm87@B|cq0VeHgDv=<U
c3yS1hj`3PC]zCZMqzEP1Q9|lOwWvo]>dFzCc.aqd%?<;K]D,<xL.u??PX_uMZk*~Z/T@DkMh]e2ZQl4jZgktCi'B?.4k)&irIP7
zX7EyutLM8r=U;'nVXaQvzNR+0v9i,#y@QFJf|K'%?4ZPcEzxE/LeLRP&l/61W=9O4TB!jIgMXHEPis)eDb,L@NwGtg7Qt^TQJtn
3|Zs#rza#6mgpXEARqR~cW<ZY2m^1jCkEbilQ|pz.Vb/kKk@HVNt'61r(V:EK`F/)sT+NWXv88s4IWsKX)=!wyuAwHyX:BFLsT0Y
a:>^d'*.%meo[j0cI!9rVnufjU&0MEPK^gZ'p+VNUxN>9EGN'5YNAsLY:QK@E.]YGH+QZr/Ju:w+fDyd~S|K5Y9,yFR#mSr9)R
,@#IY/HmIev6ed='LEa_:Fh%O8E8Z:OXjBx[(Ji|Np'fS2WZn]rBiSOub.hsp`9l5UPv]Yhj!`Wj!!*H5N6)ubhQ3.Z*gx8M=a`
s@PWGuM[S#YYlfPh9M~*H`oMKrs7n&wQBV?Nc&ApTryggqbZr+d~Zxn~Y6dpPw#b=.74Y:fq6r)8AUhnaK)~`;i;K%OmO:+:L.W[
(BX&3Rtg#[s&7;_ayYSq$eQ&rocx[.#s;L~lb~sEK4VO!(|Cm]<vF2#L^5/no_b1=V(TW]7.NHG24vtT3AT&F$jA8ZHhkCxM>8//
>J:Y5?oaUBLu2NSg<ojqx^(JHoSr_YuPIyz3d&1~%A0SSf'N%%YX%9Boz0EwlBEz.yEgjK$ZVP7k5OEy8u>ygF%JJ_a,@@c7V5+^
WG/0*)QyRT/SUArxqU2`Yx_]lGO@RZ>3y.v6PsKZM/t)hj9ej;ze]bYZoMEe0&EWR&F'e`W*DCYWq/!&M4j^(yU;GMFy/[:#_|4u
A5fMkN=(tp,0KLJSY?v*mU@&ph7w9vXdCc)AXOU5~<o)w;Lu%/J5)A68xcD<VPNF89&~A:JP!7y'[[obaA?o=FL?IoY9bV6H*XcO
LvL=+@|zqv4uNs`64eTyV:%%VNV;RPhGW<~d^G$y`AyeT$*B[q)k/E!*pcMMCh9WyzTEhG$/ebmzkLFyytxcVux,@H:?>_*qP~dz
rCR5*+%Y*I.,1XD<[Ah]Du~]D<z:hK:Af#=D7UM!LokZ;R$&PE$rW3QD9Dz6Re3jZ8j+$rMk|ip`_.2$j[vuHtf'[D?BK%<?FMYW
VKl27zMekk~DXBf/K$SQ_05M/OMY01O8hyL40_Z7BU8a2%C.!ulF&=~U#ElQeEEM23OAVxlsgw5Uc%SL0AO:!1YOJ!oz2RQtSmvc
D=WM5:/m6I!<|R<_yznp1|YLm9D._?pW5]O>p1&J.[gT#/kLhEj_)uCk*[_e+.Fggq~A&[3R98#:bZCk0(uHPN*[N='3_GQJ$(l_
Yb$fAOtNhiGZJ1TV=/Wq935js+BS:2_'5DdD?mzi!@>E.PUeiFC0/ym9Vxr_c'7[z`_hJ.OL^`j0q$VDSGL'D&/E|HM7[hVgaQ1)
_z'e]/>Qb~2hR#l|<j/WDE(a:movO/_c1FRs[_Sy:)Vp&R?upUmxIxP5/)l@vQFgGXq3VU^8zxTN&u%pXD<.iT%HXnFQcrNlbXLt
JYee+:`bI0CX^XLnLgz~?SMW;YjBx$oF0[lNRdra0;?)t%(v@,85Zhp&M=c|vpX5ni_xE1Z)bzq!]32&m2r+%sK&vsz]meieUMf:
<Mx*!7`JbD8rUpt!d$/k<E$Zj$X@yJ<LGm[P!D.ty;DXO>g(sQj<^%5E>J>UWS]P:i3;6OBi&b1v$eM+oQ<RR?]P7nX0[8^,jzoI
5(IOP']qg&4[A~GwKpBliW@=0IS@Qm9]wn'T`!r8]QX~&c~0WxeO!MSeu3e63+sY!fAB@FfugBpOqw~.^|aoHh~h'L8TpzVIt:0;
d~s>`.p_(+&doXSeZMZ(;/'4y`ol4BWQ4~F3H0<)qjGNAdD~V1qv#|/@&c=A>EsBtr=K[jO]8N00#)Ov83bISLGa<|r%JAL=ZX8W
<A[RWcpIEDJ0.p#twaO@C%:`NY&+^AN9X$:Vs0gCYS&i@#KpBC1o'!iTrl_hlBP,MK]*~lX_sDb9Crx!3*#'7lfJ2,.:|]o#8EmE
%`g[=v,z`5^Ww(cu>EOM0@SU1`t4eh33#R#O1Ug>G5Cv/l=[IB@,t$a&Kg*?Vzxj>hbLLTI,XHN[Wi:J?Y8BL*HYYv*?[8gV6S2t
qxs/))?XkDM?U9&WFKD02OY@w>cLZcy&VI7!0&UG`S7Hl`^?A/M.c/)Kv=:|;?<@>eI`A.!Oi?m+;k]2R?U_%hzwhO<8JJ'dYO`r
Y7pGO~z?j),ketQ;sJx03cyvqJ&GnX&?bF!dvP!'#K)v=^=7m??nu9|5@Whp7$ek8ppqmf=ni%qf,AcQVHM,p3OhU2$|.oYhkQ8M
*xdm4(rCojIei%.w'+73Q[z*A3EU<ELK)%ENUzS7rklUs*O)Hs~hlFqemQpkNBuul+FNw51YT6rx`w=>OJkHn;TN.w:W#9Uzhie&
K9rd2zZEZ(]~>F$$IQRNXs_(TXczPXV|0PmT?):sD3Qr,s`h!OQ$?mN0Hk0kcJar['c+W?~];q.ba09QzZUq?*zsSt[v+IZ=VxSR
A:oRbf$U?_Gj9SnLB`noePV>+2Bh]_RWx&uuq[gr3.Z=.f8,ww|k1rE|9I7STd)vJbZzYMeZ~KhA!!Ea`_qM4+(8g=uaaZ<y1Roi
5V&i,%,e;$>I.DkXy'Mk!5ECgRhTK?fJ=gf1XDA+:Y#YXpVJG5<ZB/D>Lg)Y:.,,OJb7DylGPjca/s&42iNn`&dkTn,[V0+@VT<K
!OkXfA|%38%*sp+!bGd5^jdITP1Y%Dg,I8]y$RQW`<x<u<#]UTbs_U'My[/`Q(c<,K;ib:ezGIaw9>t:KJWuLON<,B:Pl~VZ(Q>F
780QR/kOsLv=xj#rsu4PMARgUq<_F6Ogt4I2$zF+:Bl!Jr0<<|mVD&rB@w8E4`],g]$gM1WV8@EvMuB7rzzWXu'F0Nq2|=OR:+Gu
FTFCvk%S`5(Z<*.9'RvIR_'wq2gv3A:Fvt[@s'a7uyJZEdg#dKrn5jOR7S.NrTmS$<cVWI4sqHWq>;^v6pAsyETs;Y/CwCrab4PO
lP?HALKZ8S(DoY9F3RL/ULyeI1kmgV$**f2tn:8UCVi_pA6eU/H0x8NtK@lChg~T)JblUg~%+VO=d;aoS<e&<_:)Yi7FeyqG0*pV
EBdU8@kI2u=)l7y|9yuigOQEAD:Im`z^qjjl9PNjT[G,HdGKT4/WPzad_j[qG3GegW?QI_l0X|yUmp`:_6&W2K>!62`q4wMv:ln,
<KlIrDoF~<'Q(RYrQ6#tr>(+<~SY@SY@YUf9J%6=N>^^'QCVGo2w/MEiMiHvF.PRIc/%Nl_*,4>f.7b'sB:ew$$:M=k!Ju,hlbiR
>Gq9QT,^]zPe.B%R!9y't#^X33w9T'!buXWX.%#BR3!+6N=O~WUrS9(|VbRw7+S9F8KhJVza:Nml9kS!)H:OCM^+)&lMR2IpO;#*
rY=&zmBamp#piripnXCr[a=__?|.i8m<EmkdT71*uPLL@^]Z4,=kJTTIR2Kp:lm[qB+l:7uw,O[~IyIY?Ru`R6Iu%G*EK|*>]aJ,
ERCL'SY95ONmU!=2[aBi=irCEfbJi:0.?b#($j^`8;B=m]1xNP:?G|;w+2/eN777?S12Ti_6OIDl!<f+:rMuTdGJ%jZ't;n[8MhM
KJwA@15PfK6`cmyza7~$~cT_rtNyuyMez90;>JG5~W6<)J|sf2<W7KbBS<+#%Jf6@'N@xX;1k9O1#anko~@[|eK^~0HRf|jqm*Kb
4&9%CO]Z.Qe,;0Aax&uboGC!ilB[Z2:r!HydBAS)>4FF!JMo1D<F!|XJW4]7cySg9<l=eeyB;y%;s?x4ibN8yIU7BtSfKqV]?rN|
Mi7qO)Svc;Pd&ti.GI?#HuvQR@#4pep$keqd$x&zeL2(JILU;RpkK!5J0c.6#G/+l701pF$soouU/[/fvd11w?dbB><A8t!V*cf9
ItC(+T4KhgOP$%(>mFDL/(s&J)zc3?G3&*c#=azCyt/B[~j8:wyQ&qm![yH~S?wW0~vdlTYlwOVJ@h?OzvB?t:f[I_@[v+JSk+b`
;Bfbs<5DV7*;.aYmy%b4p#|h44NwAb5<G%S^ui['QzE,dkRM_(_'/).(@~$<m:z$8rnb|4?uK#l1BK,wKqtgKMgvzTqi!Ib3C%K9
y@>J&6zIJP^'UF#;r'>E`+5>0R|x2EYjqF*'wGD`Syq;OWLPH@_x0<^S9ocJW7VlFA#kUp8bZ=_s+Rrh*!fR_sWt/]U.|OO#/%8x
)2NDpUiCwxP$)P,2ZBBJ=S%='7+CPN(Z;0f_jO|6D/aSyaLw(G#Jo)Yh_aZ7f=Ln@P;t]IErweV@[HlWgZZL/2h)RU!;AoTDG?U&
M/[Y8Ri%nV6Z=r|Jbr]/`|qh!_Rj=ry=3+:=2)LJ<WWe2uZ25frELHO@%AMuWV.iw4,LTC8(b`AE'7'|A'br.IUloxz+@&frT>m#
3xbaFc8fR.?qU/oYoE3G`Wt?*BRXK?A4]`%%QTt,odcS*~Ba@J0l&H!PTA2@gj.^G?gtdi9Eb4!!;[Amu8*b$T:QJ~bLNbxhy_dy
)9GzVfV<EJ=Vk7<'ZYxf]@Iep+lRm)X~4|Qvi9Nq>9Sok363NW@RPf+%8&X*c/K6DI`Y37!ulHe8G)g3|Z[.0sUSXPR+7g6*`FMm
=ZL<3Aw9uQ.qTrKW%3N~;JT,W6yQB'kM.U3Bq,)MM>ge%R_&.Z;2f;x7vWtqq&HLTEM;6OVp6xi%sWe0MeMD]*ODm&Y60Eyxcl(&
UmVz'pgv,q,BV',F>0IFF,G]ajd/:w8&TdmK,_];U.gE~=:MH:9K_8]L0g@r]DN=zw6KR^'8Eg^AcP~b6o8>$kALJ4YvoO_3u<hm
U@Nc6@rs7e&/NVrLS&<wBc]Gq7CF#,C5xHD2o_75#lR`g3i:*l++[lC??R#lfnQNA[1fiO*',$.RZk>$pkUbFi9OKL8C]eLn~uCl
ZP.vJ5Qn_qWe,]HpXV7RIaK:21<4QOJ5MT,Vs+WW%qy*$$V/vI.+7!I.+Xv'Je]5C!?24!BVEyyKb`CSjQG!==:Pp4uYO/B.$101
MhYpT!EmVi<~pgs<Fq|;m4E!*=,p1'qiUWtM_3)%~+`i:NT/DIk9PfU;Bo57*v.Qzf3RW`#MrQ#qA[yC47|?7m;|:|H<yLU|Nm/P
mFU3&$DUFXtaZ=lYmNLR*Q[PDv:.hhpj`w#HToKYZAkLRLsUI@2,d~%u.+,dq!+:0c|BWBGYo,*!q^<KlBe>D%8T?ZczMQiN/ruf
AWow=fP0_ffWZIk]o~1Nr^FbByDG&hJlW,R88E8_:*sL>xYl7d&QSP6/H!OCO%Xcw_[!Sf7@X)8&<3ol]|C>X+M[E:$$5a^qhz[m
M=P@?m,SP`711]Dk*OsU)0EuUg24&3=zXN=4r!mU''k.wh.#7gj|da'mT415BDPP7)]U]ORhV_Olq0qduxtQqCd|Q#dGDy9dM~$3
C]4cAasEM.pC(CR+iD^W4E;DBq4M%;t4cfDj2[RUPLyF>M@]T+`+xVN0Ua8A.vWwD,~d+VI61MjI$))40?q4L<QF~.K,Nk9Q;ab
R/9/A*#+cH4aMGpO2s%])K|kWaeuX=L7op3A9XXIm<;(8;KbEK#|K=o=rg84M^o/P_JQNb9kd5.rfmN8AkJsqP&7HJJ#W/~o^Y*u
C'lejhM?F%D;[TR:,/yhc(y4ue`9QW][eda4>wHeO@eJIz|*VU$B]vx?g|')I6C0v1fh`A4A(;e4UX88_e:FaMGRoAc7i>qk+Z]6
+*P.W(tO>z1hzctp2dgl>vl9##[0t0<D#zY`$SH+:?B'6X,1MHw&[D'P=Vhhe749uX:?t8]a)h;X?cR'UjKeXfdls4ms=.].CkQJ
'it`5wQ_WBYq;V6b7N5/Q#$zhIaoLJP(4mVj5(CG[1uTvx/QKCC+z$cNj0;1V[M!#?tF4pTx0gcFODAUc)zd[#5lZOieZfP&nBf,
5_N!`=oe!$z5|f@qj&ng|obsa?7nt_>4HjY>G>n7j?wh^pYd5Sem_z+!/'A%.ZWExU*.,^WAXC9?kv;Xdah1fL'tYr;BBrzBXFw1
c$)y9^08FyNQdi_fOOMk12fmp9F$FS?03sVuK8hMh+l$LuLd=Y)!fIl|N]5yC.Dvx]pG:=K6p!V*KWg;,+qU!PJb@oaaGYxGn/I6
:5:$eAN^~:e0l),ujA2+jHm&6bEf>obJY&qPF6WP6SP/4)Z7:,6vX<oY(%d~wv:q~Z:[83jEMSho=P^]ss3>>Ea(90zJ$+^>%*/:
eW@&(6$+n%6HOCb4g#qcE<^K.hGg=+x5vOie#R=OI,.wp,|^+,C<VZDxg:ODv&7x,]<$;_v4&fyC;=KV8MNu*ow]XMv;y[doHVP/
i/Z/JH=`o[RdUVn^_[cWR~7+bLx?mRw'0phrp;jL$BNl?Y4|]*@l7diEs%O=gb;#FvFtX[XP:dM3E#nJ_,,]@(A23spy#V$0+6l)
j.n|Jfq*$LFQI'IUioc]~W9gxyd/yiqUA]gVBpFUF30n4Pb9pchq_G)CYyKA,n*1]Bx&Qv@Zg__AyFHtOrNP2ewjz>.!r.V,!|b4
j4C'<GKY#sv|nzw'48:C7~RKBL'yf`~@<[ejKSa<Ljb2e1m]F$|u+,s&sz7m0QXS[bvvLos_y@8Q@E1B]q^CRCo7^pAA740u$R=E
^_UH%?Y)3XG4~':_06pj<:ghb~WK_)Ad#lGDVD_FQ1wzaV=B~OY?eu#tA(6`oowb`1M*R5c$%)wV)WDZxM[LD7n6Aie$;!&s_erl
qBY(VcS0.44T[8$x=B`jyPZ?WG~LY(V^Fd_ICPk]o;@a*p=F,,YAP$hul6UM'0L+rP7o`YspeXm7&a:YrL?=dU:Taw%?4e_dVrhy
;hWYI)lP3e[RuOP;k;Xh]LqbcWJUE?SDlcQ)/eTu%WdO0Rx3v=opOOW]CCziPmExm@_nOyUGF0F,e5MMySQvhemg,'j|Be3UWcgr
Ui,.U)XV_4JvnF*wwCM9kL,R5./43=>1*Z|m(ew!](2$I2L,f>w%vJURHUF99*d~~i1b*ji'5by`,wnI'Z*sxIcBUlT/!loTBl>X
TEIivg.o(sHw>cmr:aj%~<mb%BT?Vg`q>LG$x&?quQmn_uv8LQBp6h2i&yn^5>o]+|hRZt+^$^8pl3wU<x/y+h+4rtKu4RtLwx_I
p~s/c*nfWuoK8C'[sOghrJV3pJHO9QLQdC:6~BP@eG0`X92g/Nip#`e1Pjt25&z1[tuwmF,Ci'eQiY7E;Kz,5~'UCO4Pmqe+R[!w
]Fd4YG8w:=+lcL>%IHCkyw3k~k%O9?D1Va*$~qjSIjVZi5#1HYf+w]xHUFEU|p]3YfhNa09Y]N_o~|E`JDoHhHnT)U[iKjC`5r7=
=`T6A2FvmnXaegzvxbp>N;g*_N*kaye6?>]|>ByC33nc[fJ%:8Ju*%]bAxxIXQt2;XztC)`'J9[_#.XM+Ksis!gbO1%lQKWh'g|@
xjaY:>Ajo)lkFwbPHLu`i%rW_J$i[y,30av(cI+ipE+:hC7NUpoWviPF30Fu1*5XL06Cw&.+qukZxZ4:0GFPoJaf3@,JR@EGNw#j
=M[mx(?_6/sN$]bb_HD~.+nL`jUUi1G1=ri^B$m02V([k,mLY_gKx%cKbhv2C0E<$z.R9c~@G;[j0t5'*GY9jgvM$.:]Q46`VvLc
=3X!93L0$zhJ]8VF*E^ROWa$MDY@f#*wIsv&Eve5f';w_`L$rNl#(AYNT,W>[8T+s$Nd;ZiD*IuQN$+n4v,%Rf)qhXpH[UVpB2]f
H6~Y_[bhmk);.lF38UBZbDSC8@YDLD]?Ll8fy%bx,[ib0L|#XD;_d%BkoMZo/Su_&Az%axI2/6#G].,oDZc)/&Fr,w#HW~=v`]y$
2&!Q?L:_t$#S./G!0oekJ<UObADRrIc,6MvRwfmTS7)s_0?IPl|+57kYa0&R#B2d[OGZK~y>j;WF+Zo>ROyK:t?K;/o7GwOAdD[l
irasKpC[+_zmK0_/#5UBjMAV2M$0t3%q1Vv%0F2.V=V/CD1#Ay3hK5oYS8:uq>&Nf+vYL+G=:UPK,C[P.%tkQzRwQ=vYIGPYMVuO
PEUMC1E8z63$L9%qH%@kb5Z)_t2j8%^K%)fIorLV)h3+D9sO>5Uc$k@.IadBym4^]zG[?Z,e#d&9*rx?frgr<(px*gF*UmVI2LI&
5mfM|wAL?H&wCitXjQb3=q96V*_KD*e`^.qJr9T9rVLl>6D|&HuD#4W`o*xhY%urCyq0Nl6'vf@:`[GdzrpM3/|mSq/p30:ZT&^
h@a0g:B'I/S&~:H:sYCJvUD4daX3)dAp$4#gY/?YoR~=_23:6tW)ny#&Kuc^5yeJr)gDmO)r)*yjFOSFMkP@p@`.mw3TG=&gB7*)
bZv<x%g)>4!2)v[UHm>Vov4OFEV5j41kxl'h!ap]ch^<&iTn3wzRxfgNg|6r[V/4q0sK62PEZk&V'~=DaO.4Y~I)z7|euc7x~ZIU
Jskw$Sc[S61vQC7E]^m8EJy)<<7p*A)`TFyi@myM|ItQID8PBnP'XPn8li6/Cw(O]Kb&Q(d2a)3<xju@OqGlVOp'Sv?QP%KyymfW
aoVy`h$pQ'n`!$3k$1)dGt!KO4ok6&z6/N!7<B|/R4fWhWj)_K:,M?,5H2%F2z?hX+fOPtdyLo8TYMlkvt]4>S+Dz~>^Je/Hj*.g
_fu'@e_*G,:YoYtmBD|x;~K39^1hF1Fmrcp.D#SS3^xIuTb`aIyLfr!oG]*_AqsF!CN1E^UT70aY!`:r4HOI)dLbWG'F5Z_re#II
hJuZW%oqHj(()p$HE%2r%n/9c(qzKlH&aFj:;Kz59pdvQe:rtA(F3A:Fkse!Mwm,WpjRoHu9XjpV&sAjymD:P:])GQeOyJp0n4a3
McuJf7/,wEY?AAJimntIcbmwGF?=Q?`nx(rUSk%ZzKepgZ5.<hIx(Mgx01VO*t'HiRQ~4#~GbL:y6K@G=2_27A#[onES'/DjpM7p
!i<+$JQ)Rtkv=j~ih=$g>tm!9jU.u@yZk=H+Wq]w%((u>+[7vqa)[k>YD9YVrcg:]v[0|[AAsY/U`ol+iL|k:@%,b[kxN%Zs,6B.
h8bp6r#4nqjC&wm:LQIR)x$ufp.TJR;Q_%=Ua)>gU`[M.J';Yc!|2GI%=h/9Od6/<Eiq|3klIn3uyfKyc#JhC)<pm4'`8p7l!aM#
='FDzUQMX^E:WChbY;i5UY!nyFbx)8#%&mKl~+deJylLEWmA+WW;oaw<|'k>qm<Q2]lvwf/1JyW<vHdw$,;|IH[A/K/':b#~,%1F
Ts';KH+B3VJ%6e*6;v>#OTw/U1,wBkaP>Zjn`h$zYc2vy2apevhY?Rz4>;aEp+@~[c=9$QiZUgAj[7~k.Tfq!`N(<V_am~wM]&^/
*BB_5>zY4y![~JP`H69+'SSu%YWECX:f2/ETVj9M$YetI0Lh`^e6>vB'UD[zsuJN!Hn+oTD<]p(yOrLpF:TuV>EN3sk+o9c)sQP>
%@FyAG=Ry$ug|5jBmG`%PSP]N4!%ATjrT=/Ctq,b?ktQC%U>fZbd9.M|bM/TS'wj?jvZUXJoBwLNC_?t+U5&>t,KUOw,xTFneW&a
sUY;s$<HSLWt8fbGHfVuQ3Q=yUbw!~lRw!RvqT=b'!wp`ZS~0Aj*^l>H+mTkp9cZrju]U|%0PE(wX$#+ko|o^)U`)la#lwn';#mT
]6QgnCi[H^AZIWW]N2M`@2(qiX8T9IqwJ:k6<`3@!q%9@isndVsm#7s|m)nt^8|'UPZ7:H>&Vl$~*9X^rlZ&28clojB&'+~+NQBa
xvDZkbE#T%;O=xYGEyA7.ay(U9#.)9OzpQnA@Rh)(x.)nOaJ<qpQtmZ7.Dno]`uL;4tMo`S0T)|_Vqcp6>!r][S6Y~gZ3=HK6Q8(
=NMZ*I>y8+nY$c5=j/!~$.y5_HU4f6!#)fc~7[r%fbPvbO[JD0]@U(h9|LVhrNY5HNI/,a:orI/#%G./`X!if$B@c,)j!'Zj<=7r
)sMh>y%L#JAWW9vDW%jUxb)X_7Cisv4!*v(c8Bejkcw,2&@r)O:cs50fPMi|,X35XunDa7'(YhJ5ZC@U9t^8v2xzoy|*EIEG=R0J
p(R>=itXgQzP%Ryd5/)YH@]jKgVdi/km%WUeC0r3v6GTp`UHf]h,oFGIfUkyXLf_RAoAfa7p&;4;ccFQbZ|I=(U9s6wUs`[AIOHy
!H:=b>0jUlS&|9;2T)+$Yyvg[(p=9zw;KELb77$%PL_`j4*uN8AVJ;`9C`/(?YPZRH[Cm![h&ls/(cRp$1_Yk]OQnd|iji3(A%n5
I7b|PfFxhS[~'xGG59,QRg`*4~KkHVL@C_&9eM_n94dY2C,hn;C@n46CH39i@|e;?iywTKYNxslN9+/)UI<,h>V8b:D#c#4VY2^p
+S6$Py_C)k?Xx|#.<FR2dc~JV|Bj$;Jrhv`:_|Dlq_SU[xZV0JKGzz62cb.Op^L0]VUXHoH_t)$$+GDgs6Dk,stsPhhtSs5,#T7J
:6Lb/(*);oDN,6,dQDkBvj);!xGD7M1P!pqydy2bEK.O!;Iiv^TfkUG@oo8xkF=+FG)J_&|B:FhECq.'V$Kl4P@#j^fBg]GmMX8L
Q_evkeaJ~C%DP~)htK1dqmTA[9%6hhO0.?Y,8cx22DZap'_8&?Yj).x~d=VLJ%S#Hu&*6Z9!f_a2<8'd!E4xkp+F*:BjD]K&JHh|
UT``;M?8>aN#*<HzID)k'<oo$4(W%q|4M$U.wRzNWxk(*h@f10Ue&NkfuX[E&8=bW'7nxPpL!i_JTa&_M?:>sIWExi<5>f)YlQ_b
`#<S~4&F$Ra>kzZU'KmmG:VB@%e)lUIq;&g?/$FeX.<Mcd.jCczPv'=X8O^l<,Cd17D/zz@Qr/.]/H,[_cJW])p;h+.$VBe3BR^f
HY(IGVc`96vOp%BYwefqrZ@:[Z^kw6o.Hc2:Ny%1aBQ/qm#4b$Xk74M80~gWRg]sAh[NyCUEFR8ub?AsY~tc7^]?r~$5LOk9XP$#
pWIoHE(:Trzm];MpH,P.k!C|<rJeWbU%~<i1M6rlUafkVP[YXAs$fZ'H9(9BW;hg;0Eq+zpXH1UoC<LW;o&9,M#TC`m,K|S6S`<c
S]AtD'ih@]+RJ=nx5Ezt/vl;EU?FF?y2lXAx<v=mgU[Yuan$(^Qd16e.U.Chc?u3>%w='S*'Y)#t_`92h[JdNtDMsy'3g?TBt/G@
BQcY7QU19VQ|?yiQxHjM![p+*H1$w>]!/Qt9TufKgr[9^8+0w.!C|oGKy8m2E|`bWRn2$&UA7B,dv<|%+/d~+vcUqfsB~j`'RYP4
xy<g3RvPGF_lSnJPgzFs`JKfLx&`tfFf/S]uuVlwv!xs7DPwyYo*~;:cwZ_26TB&h5RsC4RQ32U7]Rk9,DqU^O(+0AI[B#ZEi0j8
dfkoS&$i]G#q&.3)#?Q(z:z<Ey#g[+2FKTd%1^Z5z9%.K>7Z&u;cEb9^/~cJv?Xl^z(0tS!7Fy']k&H5I0;TPx0NNXSj.YXn#Dq/
'x^I#ANG6O]!,h#<~B81zBzVw@,L@iX~:^IZ^=QfG'vV=MEcLmn5:@#l_%@vg[=I(O&fxrq`#9H5$Y!N1uSK^yGQN/[n8UMUz5[T
ZHuRN^YT12/uqM@CPEXoT>t!GE=Fq<rmol<Z?do|%1kuZGH;GSykA#1*hJ4cAR6C)M><IMIxUH5=:h+V`buV|<m>M+m18>>T?Zr+
F,|_UTKCRCk|8Y.j<JLK^I_iNFD=TBBnxE5q+NPS@O%O<wtJ[yMlt5gm;#QRx@&];:`%$bl4|8KlD4s'1j1|6A~J0#@?1cqkHU#W
Z#~L*y6!2Pu$G|'Y%LH+_^Cn&J2[)tN%cV=Gr[Gxg13]XT@vIrC(YY=R%oa0^@P4gt~|Frqp+jy$,u?jVsh5=%Ed'N.l7@E.8[/4
X)iq<!~nXKY;ps7h>&*?cumD;^]xXrE0EFY$xxRnqxdamWUD:L(+]wmY7ozi28nt@1;tRDSg6p6y@*h`2nUxjgk&w3U+:c$f,_mN
G#6>;Ja^]<1^VOfI(VAktnN*~WtU>N@E2;H|P1z2Sz/NorN%4WnJP9EqI?6n9Ii4#Y0m_%%Z?,&P8p$!m|]4G1|GYLeC/EPnbB!O
NJb4R'Gw]`TMPV9]#yCi]u)qPh=;4bA9S,_uz8?Nv:<j']EL%$g[xSB&nP/YX9wqKOvWGq]n84|,pcwY9<Ajw%M68/_d/TqVA`X;
Q<;G[w_Oo`oyM/fnm6^_~w.K)OgZbe*_ptcJf=PC/_AyG9#zmxZifU&31Q'a6kO/`OnX.~?z;nKWXtHisDk.+N/f(Wz&S*jzNrP0
QMr$L';ZQr7f;`A1~p>Pjyp^iz#MU+:uL[TCCvz_B~yVQ6)2?o+Fb$Sz'H8H3R6!,(<NlSX$Mfn|!_Pf9sC5h1*n2U/7/K1~,YVo
VfP[vlz@AsGO;M!i'%U<gjL>[P]m?i_t8gr^8?<i+msuM=#yok9N#jY#tqt~6c+xmU1kNZ0j1Az#5mc'Hruh5(U,~qy)W|dvpj1)
J*7u&y*c_Yy]VZU=LsXjeqB|91218,6mifHAVDuVC_l44ly+fD'6zaBd<d:|*+l9r$tQ@x:y.IYM*G!t[1,)|g4ylL[P;FB<ihLv
<C2X@:.OWx:&XUe`?+Eq=QxENAKkAzA0^#3w(#gRu1Ep6aYWERe6^xMCr'm!@'^/c5Yi9ER`IU^M0.+.5IpGwX*fp7v=CvKJn/uD
(*#!iQUS91Ob*ln0<h4:yVV4uHUi[WF8aZ5($IFp*5iuNFf]0ISEX[0`W3Ge,)Jm8zO.xeoHN+z3I:[b~zPO@^#Vkm*Ie$jmu/MZ
6.PBRiPDYq,f!:?xU2e=H4@?<%OtbA*./$J]<GF,@`!>ZGm;=e/<X7KKkMFSUN2+_yaySzeA21&)MaG>Way<,&&%:W5`dJYN`kHD
nMor95([!UN#nf'*2K|F15qVvFAV=H|$qcL3n!Dl'W&)=b%flixZa2jEWK1rE6za[6qt*Nl+.4USrDkXAKdci5_+mX%H@AetR2Ic
sscpJXj)Q2uV+Z|+y_sRKuX>$`!sD7g||PDh;4h!XteLgc_0e>f~3tyYNAqeAgsORju1CFVg+lGfHM&D3J|]2;F4eL*S1<rdAZs~
fS&tPHO%jN=aX~sb.[+S77xR^Uavt/&*sf`$OV7c'^KyYgW=F@!CLye$UV>S1.p;nmG)+;GX/u0J_^c5~3P4X&1e)y1o_Rh^zyUw
].syR,yi^Y)RUf,IIY$'VBQ)4%Nxed5D.G:Oeiz5BRH'GlKPxBy;Ur'tSMq^X$0jaP.8uV%c[]R*?^+b,8o[89IXO6j:P7:>jm)+
;AW0w^(]RWeEon7#V~b#8J46/++&kyCAwHYGiv/kc*`sG'IN(z/y,[G>W'](fh,P(%ZHoXDxah700]]Sl3Meo+=qoPoXJ|SjQ016
PAbz%LQQLKR(Qy~'y83z]%!62Kq3fh+b*_+R'g3e/arzc|=^;AW6Jr//MT]vRh|odnlK^q<%a|#5LbHN,Rx#eU'Id/'c:X&@)IOR
^ZuryeCxL<|V=tjzNY3@Ypw)u@7wo7PuM#]Kke$MwMf*qD@Fy]pf]y<,f6@<OKTRy~Yng'lpkm#IBOSworL!ZRpswM>n<~4uB&CB
|1Hr:J~TUIiC13+^_PYm`Y;AoK0%XN:eZtHA!AfXXuwsF+zhvhz9?AnpCo*uTMZG7H#[_N^&ZUS$]Z|?YnzSz15KwLx2lN!(zz/~
;4qTO<Ty$fg[(TYmmtOXx+:@#p;3!jyz`2qBe8:j@+7^b_+P>eX|'ix*M[a2qJoK/k]Kmat=o]#84X/Mk0oq_NKuwKx#hYhhO_0h
=moMGkDTQy<aDqWpui>og61O)4:bVzD0iY1>4Ivh6okaww4H>QOite_9I?g%4LeH?nz$[gO32@=OgeUSvq?%'l,4th?H<oD*n0`
l@CcYIF&f~'kbwAHsA&+);@y9?(wHy|duh=bJ=FSW?',iJD:&2$eQmHKs):#3dEoC<wbafFQ`U1?KyteT$6AY&`bCjUA*t28[4'3
|M9~3*C~^^N12qZ@;bzn$<w<oFl!6+GdGm~ql0;'D)/J8yj*atO$vDw0o^dNvsreVh~]|`W#5SC+OIU>F|('9*lX$pBX+J'WSQBS
y^(:wbg1sy!ZO=V&5R~]N^sH$UW|[2NN7W_Xn93M`C8(%LlTw1'*SsIpT'(MzW'C5,Y0E~c4de'pfTl[xx|!Cs/UV2/tIy9)~t$y
5;F<$=A&JAZSS|<zJRU*:lHG$[M/PJii411WAG>,'ggD4/`F#S1^?e38RJ`1zO_Mtw%R>CRObD3Um*5^c=O`b=USc<>eQf2$0Ga#
Eb8;i>fPvCvnes4xGTav=Ok]#PVRYRibfM5%G43hY';qtl'c6A66HTupj%ybc]k~zYk[YiO7HNl2P5ivwsD?9hPx9_+wP'bNmXTi
d~6'Q:!X^mOiX+56%tSero]$Vv'_EVb3?DszV$F9h!d.QMt|ePcrhcz#8g(O/#hE.F@PqacK#yo&Ll5S!C,jzmEA#AT(2`,l!/c2
+ODyZc<=U*MUb(xd3ub*/H2,C=k!H`s_,>6@KhRk'>^vo1fWPa_B`~Co0pzv%h6~r8t_0x@k>vBc>/m1p7O:do8NFQvTLa/E54@$
.IXv>K$F[GKg%!*XQe;K8Fl/LB=7MM$4Xq[Eo%R79mc??]!K/CCxoFb4:ussX%9D=CQ~*O<Pb1,_ELKZHu&buaYLOf)VC/zZ:h5A
KNGUrn,+u8B_|4j^N.TaxkCH8M0Uau,P)+SNc~Sxco$o,SXUM(V:n`Sn];Z0xD2.:[$O&xny@UA8kuJQ&kw36>QaMJ~(/)T2DjcM
n&DF;jR|Txct;n]tnFQc]jT>nj,YYhRo3,R~yUf=Q@Sv;I9OgsMPC9POCqS+bm&6rM)7x>*yE#|PDe2:Lto<~/3.U:[b48q]O~`S
e|^b)f1VH3sSCAvyi!7I17/9<`i7xvc<4sdQBuL|ot!6vXr@!UtJv_oC#vVB(R><5Ys=YE]NTw~8,zu@|3i^jWyu6sJl0<,$*c2(
&=t*>MDhc5$a+~>anEDiOkCeqd.X'5!ks(8vMCF#j^_Vl96R3k!s:0zp5C_zHf6`yPHyKIg40G/zIpCAZ>iJB1py9@oVgrriJ5Ci
>XNYW7cqAC&%KB[~K=/9hl.p4oXF4/h71+/bWP<BN1M2[digqeqQ'mqHi3/Ivv]_T4,AaX<;J4pg?iv`]+,fBi;c!zPIZ%5Pv8Uz
3foo:G]D@p)y68fobLoi|z%94b6ab.r+m#H~fo'7>Ge=f8:.kkr^B$,rpE'B5nRt.A!Y8@r)hsj~];9hw/OB)jq#[U~*4oJ|RU88
z^n^PEWD[Q3N,RP;Co%EOCLSTQ>[r%dZbzy#j9mj,qOzXt9r(uMr(.BvhP2='Pwh3(t>ImRN!.96uVw'`*n>ZrQ$fbUG!>D/_23f
CUU<Uhvv82sDvD8|YU'NXD,.E^#lTSMipWDHFA*_v+Z&<gp+WLLSPqO.@3U~?jPf>ulCGeO1b=jgdwIr6HO)9L]h,!3>15qnom&i
!*&2'+s]L*4];iLw,PxFO@s`I?3qLocsGKP~,E:'[,U59'qPk+nRY$;<Oe*v?5*GSPptY.v$L`y[R*^@V6USL~P#J4d*Mr=/CF1M
(a9W|xMztY@4/;mnG7=1Hm.[BF&yT(94|,B!DPlZIZGr%%t>vzarpUY|Lmgkk?~vMSkT`fl|j;k2ZdgmslZuF5V>*KipRLXUxaSf
l|Ft#s!zlv2|aaKYqCW~nvxEBR)I[Z~VBXkV6NGX3Ue.8oWftnrqrx(Rm91!q4o3,_9p#lD;]%LM^%N/jQ`R>wmC,a`z%I3,cl67
[Hf.e`nOq7jTqD_4Jg^D0MXh]'hncFJI8(h!?E=vMVIuhaHbojB>gp.YLN%1Zb):E6uy:ZynVkoTMw^jlrad'CkvgAWAm=s&lI
M/@)N7g>:*)TTlNTy;S/<G,.pIUN%dK8b`^6:u#h11=H<6wf`l~c/r4aX@eOO4AKXuN7lMD|neQ>)JM2TcL#7A@M`y[;,SA$h<*:
Ncp(*&HkRRMYTEH]B>~v<UIVi@117#Txn>dW:3RcyFZp~[I7(si9H'nv=,I#iwo/&5'(ZwR~uH*dCWCB7T]wTnt(xUE1l<:8Z'/9
wk^8W!WbQ5!RjiMgFu_*ColzdDe$ooI3m)GhXG/=J:(7V9RV5*7O7d.lHTo8_Fs!mD]Sa,t>lVdRw2bVjV?HBT(XEU^VN6'XKzs>
:jg$1[0%th0dBB0|Wg+y:[1;[@,le9=5h>'k=TV0Lu]@H.s@rA@=wW&R;3r|k>BwASIk&6~=o|$Z?IsRX`3sUMeI,`ym1Vg03v'm
j_ft*1|8=|_(f/UA<hhBAUNL2?sx8VnJ(u)4$=#4qM~~+E8_OJ~8y[8:S'@7s**U^VUoll|G(6rSL1CSX0Gf?u2#:,=JSXBp.f,F
9a$ZdjL_Qww[L%.G]3>fW9%]iOH|ePJ0sa6:].&uj;|[f&TOm6op4ex:0FrIvTfr#~p]r?[!)aT*PP16I06!l_/X2daGOq]<T[FN
c<a3gD?[0PF|Tsr>'(u/kconF.0Kwh6e5IC1l~Tz0oe+(W)H1[Q#S_B$AHGS=0LgYjt&u|y1Vk(B6+^hGs2ly&x#JrP1+w1?75LG
`C*a1x[v3nxfl8Dj!E[f*V_&%p]dsE;6#6kk7Fsaqmdp]DZZc4jn1^dHdM5rt$ACwfaDSTeYeu$4~nhBgDYGfoC3*plrmOY9Tx/l
q&cL]04rd7j]bQPX:)aWj.vS2nP^v|W7]5(vK#O8_SY?APDIJ~vkpA/rv,+j,'ztB'tyYb;f4g/_2w`x|V@VWL).#DEwMN$Vy|C]
p90eNm*)hTMuM8Y9:1aU/S:3xOMDZjI_sOw>2BFC`Mrnk/Uikf$6;avzNpj|Qk0&pDmY(wmz)H)@0IDyYURpJl]ixC,iA%n+_XHo
UtcQ5|:XRF!`juA)4YNwsrX|s2P4tcSBG?`Jx<EK2T(5@VfrhAZ5o%sxzN)0[yk8*]OHQ_an>0/<Nny*:XVHuf;h='VBpUmA:o_?
ZL|9Tr@f*',CB&)'S1=6=3VlCEfR_FDV/ME1yi/U`|$1>%82]l4:gma:d#%hwSI6P|<#=Ynwg'!_.Zj)@:ZGyQ,f*i!zHNXZStS.
$:6`VgFq)]rvMCDh:GTlb`yS<C+!b^RaJdm=CPb4b^y$]!fP)vTxv]%ZJYi3/tx;>FwNHdYf:'xgsR='%[.Z%;JdFNr|]IYtqQb+
F:<'*sheN??T/A60k$#GDkbP|~FZ3^i3W?[H8sBx14[a(5`C3GviYc1kF5r^2Z]Q34X^;5mg<xtgTStT#|q~m46m:7yn=o>gPWkQ
F8&srXA3z!Rmj5HTxurkr8%YU<NR*J.Eb~P[0)qTb^CfeR~<@X;d=j8sK87(Fq*yn'nj.+98.7$_Pl3)wvmk|P(l=MGmjZ.Gkcv+
!e$9ut$S(G/E!.8O2UGn~OPG77E<1<?$s*%T4E^(<^^Tl8'~QG%M3`vK*juJvdgIe'jk)+Tk)@=Of9:8L`j[tX'j'LP]~mjs;Wb+
I~yD%)6(?exMxL=.+g<q_[h9_X*4KV0]:@QPx0z1J(._L=D02/RLaZaif1Y>6%Oxu_7'Y2uH|+#rW&fyVZ':39=iz99tT(4~zLt*
kZw6Ys@Gr$*];pb1GnSMX7UKh/3~IjFG;.)Xc47%e~G8vcC9CX@=u!;Rg>9SiPnR*4nWN1lGuEAZxm#)m6:/G56Lqtxk)i0|bU|V
3xr^NN]1nt2Yo0:YZRq'S?*8;oQNX]P`LV+,JtB/fqkziNOuAf+FHc+<4z,>Li@6Ar2bq~~KW'>?QW94;RH1ZPxxH0D4(+4Gp=ji
9#o)Y30(iW]<X?wToLj7<gPw^Q%ek9i.D`qhv^W7O1Odj^/S(D/RP[y4V,=+T|T*q[&YuI2d@<V&Kuzc_Ea=I;J=;e|I0kajeJX`
'4ncDOhw)&a/vBp#fGmS);G^uK3r%uJ,lKYWjM$d5=[mU~D<;Pr4k4;^0N~P9HER:A|Fg[777ay4G73e);%av:##N>e~$S0'Z@9V
v*Tt9vW|#Z0UU8&QFC'z7mK%p9I'Hq;cQsAls_w)N|;0^IGA2*''0hYdzafvLuUvp2*.Glq.LpPu!6N$f;Xh;<0NeDro30xw#2DR
l,IM,/s'Mk|;)=@E61a6:wpNJt5qL<?mC87(FN5KLV2Ntb!YsY(oA*zp:C<R6^cYJA>jt;WF%]$V47o4o?eHGN^IT~QCvq>Jm8uI
eDDO47$cx~0niQ+&d!kg0I?c/6>bLTiCXVfw$:KM;KL21Rq;W?(QA2+2TGJ5KSG69&5f$D7To[a3;8lNk_#j9:LT3+.!e)k>(TCb
m0QIW>$H~n5B0G+OoK93nUjCloh/pRb`^~9!?`vKk5rN]3H!>s>]DWRBvrIek6'.YYWrCCDP7z4_yhhRzZI!HBUi#BN@U>An`J@3
q9uf#rp@HaYpC#6Yn1yPgv`QDGqb|o(Y;liG+>A=:7.5j;BK^))j'cP`nOtq$*;8IG1gPYqc_z1V4;1`_(HN&l1RaF$)owF/?&,n
m/kzyK>JcX>,hto[|#Az_Syqj!MCp7e)`cvBoHu^kPxLgw$!a`FF`[z^<89Nz+s6Wa<4jLG^uyIBmv3XjYG6URp(UT?A.;&!XwmP
1TDrBP?Z6X/+RJyL4gvbBlxF;0wMSucDhz05b06R+w'CLe7]oa_0D'vFoQ4V+g]j:WdD:d4pDXD6:w'gw!yuB@C,;/pDdxr=nXqg
`5Y@I#@$PN*#(1P,IF2WSHU]mO!gXyhuVb4%r`_%cr62jb+'tw6xk^3&CTvylnMD2XRLwV@;.ECJ^skQ]wnF)Pq<1)'t5;p<)d$+
$IWSg6|H:YKnD%S>VG.<WsT6r>ZwaU2/gYS4|#(2g_h|;?Ai.N0?Y;:3i?Q|QjeG.,cgf#U9m=82)lRRi;r`o|,:J!CC(0:xX?I@
^i,U)L3?$;;Y8BWWk0XS!z<dE]evOd#hna[g1Uz(WVnzJvRQdnIdCLit!6|vO#80ffNI)JI/(z=ftjqpMIkV_8p1)EO,9kN3_(^x
uHh`|8C)g5t36NZLn=W!'UNPhEvdrZ:=|nW@bn07EW4ZGR~'r[;CNPghJuw2HPmu!7/hk3RK.@<L[_/(G71t0k]FQliI31Nj0pdT
w/b2cLiA]qN]Q;Xj'%y*_?DAjY~>N$Aca8YEN+N0p(c>N_Y__#o%<&]#?`l/DNTlJC!m/<z3`N$~TB_*`4:HKu8Hi]c8Tqd_V:b~
vz:i17a!Gl@?xfz~|,s)#t=>O5F$m/C'uKMD?,6Orm(W'LxjU]:A+wT<G8h;t9P(>^:UafeLxhpD|9v2j<!u>|e7nBKMd/6Tm[(]
SNtz=(N|<uipgW*21+v;x!p:aDSVBs^Q#+Dg<mR+GooC=v6F113Bb|QL+._sgyi(oV~$~hr/gR74YL;OT$z)cvPkycCizx@@!x>Y
F)_.|`?V*K(G$K:C2=4=9NMNR)1@)f5W]2X33Tos.&Yd@B$FUDZPl5zNHDBE%YD+'t58vf~Pd|6$RuC.K.6Gt#[hS)<AqAgO2FJ(
212p.uPD^WG.#A/ZzV4OFff$rU+HOCjb&GU4_'zjBIR9jG=vEE>>H<;I|3h3+&<ZYY*+61_eG<WN;)Q9a8r,F:sFtas`uP7gG$D
h/@zO+v%z_q/rL'_.L9X9AgE0i~p7O_J|='2?7NXl.ZUFGHsx9[YRl*H)C;'L?kEGiUPoXjxDNGv|yAY#mbWD^*vISK=GA>]6qZ?
_',#)v/ru2Ta8P)3H,w^nhv,AM44pZXysD:C$cI!3VsHji`b|rHBm)'lp=b+*xy%h&/b!(Z)*$|SlPH(/;@+1!Q(|Ff+2k^|.7$k
tH'V*D2!yB<n!^7qhsDIpelP0&.aI<Y$cZ$JM7~V$`AfM1VY#s~Px2!VfbJ^~@vT?(MiG;G9b$>JZF|zUDICDZs_+7]vT<Gm$Mre
4%L_2YP!SuAzIZK>4O#^uxsxS2.@~;tU<?=2qWWor)6ehc@G/iTbEM#)siavmIOITm_@^>2*Xo1AId+1)uC;2T*hm>?)Mi<9mUfX
DGxa8*M#17?Owny^7Vf/.j|4G)lm92<?Rc.F=mQVC!:6W;zS3h!jDD9wuwB$[~R&9~~?~HWJ?3wv<mOR>!Y4HY[Gcd>$^)[(>?)O
o)pf*So<dmFgeKlg$h21CH,n+@izj<9&W7[4f'0;OF1mT12UixS`jTJdhBmC.+gArPN'A%&[>fYx.Pea>`gp9F5&V)kKK'SFF!b6
to$acP1%08a:_t@shkea/`~stf2Do_WzC5|Bv=Q^bTiQdmX+)A_?tgR.s?xLk[sSER~y_vX:LnvJ!WhVJCbP?t9/Le^p[82HwFzj
8P1D#?p;*^D;LXfw!Y%f[y]DFT;N4O+&Q+:#;k32f`!Ch~@K<g9Bg>+Z4j3:OYnE[a)_12k|;]QJ@OtztG?D+?:G~D?ZQg`QA%|
Q/`.@!(Q|otwo=7k?VzM?VsuC3)]TEnm?QR9'zJjTqy4IvRN%:=@z|+WGa^]Pr=.`4|cGgMfa(cwJFP7aGb2,,(Ef]C4Y|ZoLrk9
j7[!h2ZeIU69Q!wchj[lyLE;gp?dADhTi+8>N7f13Vj]$|[?CTLq:ZxDZ&P8dpxA<msvxfN5hbEci7F!Vv388kZQtD$NoEhMWQ2*
Jbosy@Ky>D_HyPS0#,*K4T5Q1E3IsHGAdXBD@`WQVZXAlJ;+7uEH8<]sTQ*'UZl$Z6[Mw%tTz;Xd;c/(ab`pTenAd,@;~fTQ_Kap
Ly~/g*Zvb;gUP/xEAgL5c|R;7([B^ov8jTgVm@>.9]#5m^nD;%/4Yk_=y.gfLqMV>L+kotqQ:k4f=[MhNvZhJ(%,AJSe@Hi]@@Zi
Qb'LqXz5!c^]6A`B1flqZ8?iLbuDXIb5rIu#c2Qy+<Rjz`R7|?Lr~=QU_;M%>;Z7_%.YHaJL#^,efTpo0fl.*|lsG1;?SCsM*Jo0
4%U;]JB|lL!$(uI;@#drDS[DcS5qAFRt2fs6Ju&*[A!p<Ui3j`Dl$&_1!&LpI(4vrq.Dm3NYIg[|<~baIEFtv*vjd7_$s7mC7uQ,
_?tY:?wo6_z4(NB[,8CYX##*WL+J@<%F4?z=bmnl0|!:FkChi[vPXnEhgCcwU,`+Jy~2G$g1rj]&OumA12BuQE$!%mu[o7!|[Q92
7y=QJlY`HI(VX_,Hf9rx`8q0uABm|rx]Y64Ju)`h6C_w)0fxP:3&x<kUYQ.N=?TopbNK@q%xtu`KNk0t`]Q8K3ogh1GM5>>4iE(<
HvIOkl&2f<|RI;pt`*btR&!^Z|Eh5U&FVbN>VY(k),.Oo&3`Ms&3W).QLwXV45fE,]I9'YBoF.mI)ygojot_$0*qoP8sX#E^P/=<
baV:gP6T|ov<#IVREtQFeq@8KV+xLr;vpqA9#<*h:n7NC4Xa(V%3]7_7)DEo3<XXf%4j'KPnh'~$>g^ZY8LP'(GOe*rDv=5&|A<7
gP6pDMTL>yZz,*hJF|,:OpD!>[0F5('w+(tFwZvqgjE+7ZY:Kj51*1*Xk*>5_MR~GvsA|!Wun/uKVs[^aYN,~SgJznq]+#2uq.&c
=eKBdO&=BpbzT$Q'C3A)FZ+Ybme~I9z29i&NHr_E!cYbq?No$hGfCG<.GexvsfkZBr43?~QLJC4_[N>h>2<FI,ydA,ZYZ&'_^zCM
k9d6%bl^j64sVrN=!a,Madhu/xomHTJH*tt1,iWe2=I)1,B'IPdGd8GF)@YvrI1pCmozIg4KT4)~SG,zd.'J~:tEh=(x<A<t2j[^
.:=xiHx5;]Z,2|:iGveafQNl6We>DS<b!z7d+PH0QL!uH)~uuK#:|lXWAB0U(.3Le7anGRsV57u?yU9jitsE*KiHmtU*(j(K#A#%
qQzIgWFHRx$&'iBMs'>*Wo5kdPa]#hmnE6$|f$$?JRH.VK'%Ax#<0!`ZmOc%6^<):QG5&q7=v(`||XYc*oXdk~jp(IHXSq~(1cmc
Git38Y*TUnX9$b6Uf7BI^/>tAB/+X!KND'R[B*)Iz[D;H+66OdZs>*zf5ol=9kvx!kTYs@b6L!>y;T0vRqklP.C(O;H/x!yDl2J7
.l~vbzA#/Q`Z%x3Pz5g`@v2LXoJ2pJJz.Hsd64[zsP(<Q'0(>.[:CxL05dK#>X7Vkfjrq:Fx2!MrUZ:KjsIdvc/O)'HE]Svd(Oe+
848<&!i+xTX]iJgE.)>h,G/vr4*.>0@:Oq^@%l*[LatI5Qom,ceXN_ZSJ'))z&FZZ@duwC>+>fUk?cuvT.b$rvUmCeM1nB'4WOdD
R98P|]O<x7BU6(#h#C=7U)KEt+!c`cXEbM0TZA@a@7Uduxw^:X:JnfI,8^=ZF/c8zgAwzVgHgKR;D^(4t)b6!NkM.uU7D4#d(wu]
tDuiV^o<9XMPq,_9Z#%LY#ZYhFuXCgP%]8@ML0**:*dQp^z']z5%BWigp$zigwSpUE(DRZ,^dt]&F>:E<A>p[C0/0'`&nt_F/m[V
Nb?Wc<=#d+H^A_8Lf2vzp>^UW'#ceirkx3Q|I$Ct*6==#wAB&A;az4RF8]F'aqfB/~+4N#@Pn(SjJ@)R:R]+Cax~e),],GTb=~&/
JAs2co6W(G:j#2q:o=@jZKdTQ]YCq0B)y`S23gs$V9|b&am6I>:ks6AR%KTD$9qJ6~?QE~c;H,A[NKSqO*64K/r*gLd:86,GM(MS
.Z;4$94J**nhx@d7^bUitTk0G!]2vq/E0]t+lIY`n9@.*0EN,Fo'@'5LT_US;)bC)~pIJIU8`*~^nfrypkb2o0^LLW/G&h!CnpE'
rZ`;+%):O?hAuz|28|JPdRnXBEA~R531s)f%g8saj#sR)k#3orZ'9e>oB#`3t_?1/M'U?gNp#'JMgJXnG$*6O.ap0h^nGqVK#n^r
z3:B0SBahop]PIcr[jIK,Q_u=l0*8G^5%elG_l%4nvVC7BNpkw57|n2sXZ5(*lr>XnWJC)U3a._ALb7HY*S$`m`AfVwPd2/Ze8+:
PU8)b$&tm_ejBE(Wm.1?$M|2Sv?6u2sI#Ky+z[Jnw6.%ER7QjPN[M$$k?bxomvf[ZpLm;oo3E=8X2!HdE+^Ph(L|O6HSSVf,zxfN
7CI+[:&q*N/xN1?k`DFJ|s*SBOzYxd2p%V)dmmQBNf!~&&ROREWr'Fx~Iq%Sq0w+ZQ(n1,55n:&VX.j^I$h&/!pb|N88Gz~ktif0
lw`i4OvUcp1,pQEe6&qrlUYFP$qnK7i5o'wBZuR%$v/XuN*P|;z<$gQ*$=Cu[IN4b135bDVdctIl#w2K?K@UAV!.pklWI%*p%68l
8!SCoNPW_TZyOA1)Cror|<h*2[Yu1OJgg,(m/KKs'?X/N@h@l)9^j29skgi@)N2B*rPW%/kJRWw8>jscw9&6%dF;R~u4;yB*(y:Q
t`DR(ml!LJ9)*L.gu3ctDb^5%P@'%,i,U_haMaqsQU`BEy<^fWPBbDK:pz|gPFqS:KGeVaILb)@|$ZLy^sV>S6<NH^W)XTQvghhX
4::8twf[<gb&zre%,DYuDZ[=FJV[S=]Nx_6?v1?DIG;!te|QR<K:J@.&2>]U2h([WZ#f^<0/Z<iWbG7WCOB)1l>h$`N2JC(JTPE]
;!wF8]+DbS[;S]lvTVYGPtR=7E787IqOytGGBpe<c.Tszew3+xLz]5[yQ:#aksDX=umIFlt>f5JK0)Xt)~V[WXV_CY(uF4c'0R/y
e~]207$k!~Gy2GSMht0+#$h|aSX:SGV'U6d;Vxq5n5$nHPJ;%&.lh[aco@]<<q;uVV2Ybx2Z`2GnnQf)]lQDQ:=[[Q_]g,28,$hZ
|,EKVo.'%U2c4s&$!IP#R%T~Qua1b^#5T%2vx8pkvyUOqox#>lybR*@a%<;[_~oObjD$~5~!;)w8h;a3ib|xmc>R;%Vo$yk&)ob=
+wYLnQLkSbH*c|hf`c>*Nv_G32LE:=1_$!XN9SBWmZiG^4Qd;FdLDxbx,*p2[cnE5vx[qa~4>&J%xTS)7@&'#1HxQDS9~/y3>fHj
qzcrRj98V#*,+6nlfq_wa;*DsRaL9pu#jM=O`H?_WSZPs;mR.!PS(?ySa>|VT.l9Y9V:lDV4$F.:ndzmcs>(wp^vV=j(_Y|d`ZeR
9V~$+'Kwu78iZuMyxAT5V]l!P</r3zTCgDx>9B+]A6>Le$>Ymvq;yLVVw3bevA+nQOyR:>9c#]nA&oiB'PXm/nH$,PJ#E(0FWJwl
B5xNW?cUz~Kxa?z3s:zd3_LJC$k)6Ih6s.SVi>c?|MXEij9*|m'VaxVT3;N9S3<%mxRFP#ma=kFY`/]/86q32B`LvS^BwoMSLbPB
LNdn)~%+w,F[c4U<.:U|_F/z<JWe/S6|6~lWQF@YP>Yp.4B]jwmh^Htdqi;^KK'kW.A$;h|D`T058f8Q,WaS3PBl=pTPxqJ29vz/
__Ly3KU$iB~f>K07:mrm*cjMa`zN%<n(TISuII$F^%X|?JI@[vklg`VP9rJWleXggn:,'ZlHFPP]#MzRa*Cas|cn]meH[TJLi2cM
BIaVK#m<SZ|`<HlGdS=>6tqm*I<MK_Q3.J`4u,m`|e(Zw)LVYj3B]&Nmk:p^n's@:_>4T1mNqpYz*^/56'ezmk!QRSH$<GENW&+z
o2u<_g<#oz0N|Q/JJF~o/t3w)1VkjIopG(s#egshe@NF49~PW4g+pJD:ma16,glA0y.Ev7!?(+s>3i$$d&:9SB0OdR=@PB;;dt(o
Tn^:QndScs`wn(x2dZP<7Dr7q#BtrjKkg0*VRYQJ90<hm?[Z$c_'F;=nd+C9x1#>``+7=hkjnR=*qOcp1!9_#<T!X$35fh'3W9<b
E*^OyY/s`+q>=O(FQ&8G6X64HQB3/R'2M?oV.HZ&kAe4?R`m:iE[uVXJCqHkw,ZR7C0Ili_PhoAPf1$$qX&]3O(NUd|XLNp_Uj2i
g4Mjsv1WI=g7O[JFo[.Avn+l+o5+KH|]9usQc[md1o`p3&,5G$dVf=qrnUm[[P+)X2NQG*dZlfz>p^NKiPmzM><nnf`RJ!61Jkdo
[Js)D?HgfI5Knm0ZQ$$BT0AIrTnbcrl;5)sUB]W'>YY]RJ9<h.3`Oc|jhfIDPC2[TCDQfdC6;7(;Pfh&eR*aA7'b'I~+ga?&JsaE
NhRSPX/np?Nz?7sn1WK<467@DKsyX!j5sHV6>)iz&6JorkeYhN)CMR%qh8XvwSH*oU;k8i#S&]!!LCu6b~d&ik~nW;(5W<S)*]YL
KhGv^FmT!+9rp'DciFy+zp|W9~Tt_9|diBo%|d2v3(8H>rWRwva@wux1.xv7?fg@h)'y0J9;BYW;i92AVAs[Nu8,(@gT*oUKY~W&
:6RlWt)ddm#NzOjSilNzts!wP>wz?<@'2YrCv&6n[9#C9&IpOa7l%~#P`45|TY4W[v@5#`r!!/c~yAha1j%FJkxq6UdBkC@^$Vgw
|89M&0=e2NE9FB$o==#WZ8+ejBr9fW<)[i,=M8wM.+y5N]svK[sR)X]4&$j~>7$Y['~Jr=[[D|'qfT0%2eDPe^:B,oe*5z*CedT&
vW~mYJqR$DYzy2UrF*P0Je#L8*La?LwHdm.<QM%l^:/2z1bqs@0kTg4T'XFGfZsyj(~D~(sO)E__b<_Xv7OWkvn%7='9'+4Y!<n/
R76R)a:g&kxQCIQ(K:tX^cgXds)h|@krj=+d&*+KSYs`IAut+DOtufgsn$m6rR&WBq[C#:&r~4k^F$lxU>MkXp]#B!<eY82I>;T~
x/YS!*q|yWZ/:5M#E`=$:iKsay!hbui|u/X^F;~$QIwg>xhU^Uf[6zE[`E(8RW8AS7,Xek#Pm`Csn()`c//q8707tyQu|'a_7;s9
+rcd#qYEO+$0<C~a*;?l1%`Mzh>hwthXj.>r5q%!.101E!<2#_^]r/@:ot=(pV;1BdWS7ZWx%/:JgoyNuNBHe:dWs1Mis)50/@E3
<HNLO7K~&WQ0/k=^1^%|=13@U;5'Jx8[]y_df;MR^.$./pnpny+)qDc5isEP)Z3u](pT=/Xso:%]+%3Q[&FTHQ&p+p/Qn1c(~8|
4@T^H=c)*ND2kx/^sJ+T?MZ_csX&u36~1h!vGjxtLrzK0`v#+CA:a/%UN5qR`)R$^9]+(#4,J91me_[AX9<]Aly5nuApd&?<%by&
0*d~P$?yPBwoDdgX#g/G=F9=YEi5i$i]`F0L)&<W<9RR<85R#1k0UQ51^mK,.Hh_02n26Yly_P(1YYvrA2_z~+OKg?a;@Ar1,E?P
BJDc=<B(^dYNp'g2+=$upl~^gs9S!%(IbA__p|>pImQ8QA&.|?;N&?RXSDw#wb[Wiv5NJ$rS1#I]ps>#`nv@&;~yI[U(6_Bo1U(T
1Em^r=C'bY;hPT0`O6~/YQpP#j;ASAbuQav:=)gJv~ne<fME2$$Wutc@@y6.T,dZI58X9@gv3yuI`J`r&V,8o$Jr(`ib6x5H_Sc,
q%ux[m8n96qdU_*v.T+(vuAt>84'2q<4F0FE?UACoIesZdmE:~8*bev9u!KWSZ8.Ta|SY8N6/g^`aeav`Oh02mGW8@?v/oC(`)!k
az2GYW2?u|e4&&Y1,k)JAQoa3o92ANw,;6<n*SIeunFe[!!PlNL9xT&!gM>)KA@l]CoYGh!sfuM&1S)pqQ`#R4c[])~!p<'&,]pN
zpTlF,W'l%].YXQNu^gEJK*%;YR#m#v5wdMN$kV5Xxd_!mb^nF]ss&MsS|hNmd@)I445Z4%8wd9ca$/<jKzt]UJSaQWTHL,_f>[a
u9fN3B~'B()!k9tQu6fqMiZ]bJ,6r`n5&)&P4&!p_+d/(p!SwakeYaI*V.)l=~E%a^+@+xKJI<v?etCSpmQfjkdR=xeu;jCunGb
8/X4~o)k3etuz@&b2O9+tBC[T<mJV>jY)40UW(0v94$jix`DaMs80n!OUyE[ccwp2.GB.vuzT]z!+D@E*hwEu/W0*R4CCeh*y;v_
V'`)o)cDX~A!41;*tbck9k$C>;?v(4`>IF5kqx+Tc9RY2MN|h5%aj?CA(D9<O+'58$mwy_oA`yq7Fa2U^KrtYva=Z@ch[0FUq^E)
8%X7xuERf0FNp45xZB&dN=`Xv>VXD+sn?qoIF5KD`Uy<h(31BoQ*HDSAye_q>gt]>tHIg~[biI?O[Sf@wT~@qM[L)GXUYyM23ltP
>SfN8kXq2hdtqT5]^XLE8lIDU0R/$>:_',:Dp//`Ni4k<bH>Aqf(UM$q2dJ4jYxKs[SvjgWCFal2l,fEj|O9(2*P.4@]ICy2?a(^
|S7hTQ0F!icN)7eNm_zFSmx*(aj9jglhU|;oB$2p/Tq;NM3pVc<Z%0FNZ<&(q6kvc4|Xqh'qd&zH@xGZP?i[L&#I>^iHFs*Pz]J!
|=0CV$0>Y:hm7|;YO#C5j/J=*(!t;mU[)'YuSv5jKq/w0<Y0lN?5~M@eMes>NUpWipg'%'rHl%4.(]3^w]U'VC6|3~/*QMBa':.F
+B+1w4DEhVZ#?s8l&,y5^s(K:d>;BO0_4eh8&iO)UCuQIddM,fjWGxkc0Xa%np`'rcQ|HJNGec%|;EMmm$jF$!fZn`U.d$AO3/,*
V7OUttcArK=nwhZU?HzP>AqJ*:icrL(%)f(4l]6:TP=XM0JB/EE<+7^*u>eC+Z&g$A5Wd;[Z5QB^D8N[hw^szIWHelmyy/kv'g>Q
'fn|52uL*H5kIp78yT7[]QuywwYHawxgD'?awk]gz,d9PBF!rW~,EL.yh9SkRAB#[Szz/)uRo43'C%TXhr;(%^+qO_/_r+|cTEgA
p/2=Jq6bAgY8,ZE27)=fx87QVlb0ukiLe?UgZO2%U='/q&R5*:B4L4`Gv~Mt6`5,PUf8$bYA^fHs[*j2,2^x;b`tdE[Juj8EbyCS
PZNh65X~1^X=$>9Ep?Q7tx(2j;XcD7'|^Yi5^2cB,ZPTbOw3tUzkDGTxTlc>5`zjv2F5xKSlV^RUP!!2=o<$+6v_w]9T6K8zOZ:>
f[`~/LP^d^(fekn5xhRNhgYI*zft3@qh[5`E7Tq;BG?NKnN@KWZm@tYe++Kyi~)`TO+rYJ_/k|n0IFAgEt[^gEvUjb.Jx]/iWlH(
?IY.2~OKE]78tMxBJbffA5|OO1.[*%(>Jp#tDBWb6h:;sqriE4t)3FemP,?W(U*@Wf2vn.<>j!i)V5L1j7`M/_.D>;@6W*mI5ka:
MNJQVIsI@uCCu'O*>~h1e'rXhLViX&qN)T1KIYc,ssF)^E'Qk(~=N**F_/0L`bhya2M<W|/wH:_.HiIR0).Emw@#4T7+1g.1MAnN
PNl,nTBv.fZ1$51lACX(]ybmD'`7?Ar7vgzPDi$=N3'hMme_r;;.bh(JFFx1+GNas4m:Y(~wV(|wcc$UjjY.ZDE<'*5t,_.fi#+J
1+41hDkF5Vds&MIGx9&H@Jlc|EAq;j@tdz.Ia`P/|~<DAmhVbnxY1r_$c:a+N6|S;AQ:t(3f+UqOFZqv;_PdFn5]SFPNO`H0n([z
YC^V2xzu#AV:EKVUX3Ty!/QqztW2?$r~GgQ42zt;^ECZa:ihcNf]?b]BJ]on#9yn9jG_b1%TD'1Gk<$e%+ri^p)0PIbv&o.nLUkL
^..a00[JSWZuCFY[1$ENCjaN;BKs>D~!+bj5H[$fKZ9ALHFJ9?gDW7rIovq:?vawkp>Q=~*3!:Wl2[j*V[Du)*Y_7)n#r8k%||>_
G|4|2i'|ADhbA_:~L)Re~P:vLBPOp$(h*<c)0BsKJ/_l4W>EZ@%3IBTD&UlYfcMvg~r5h(e`A.BIy'*HA=c6$RF<.ZG@_i<@o_]~
D%*jkQdl'JaWco;z#(5Ft;%&a_3YQ<f!py0|z?[0@U6Z5=i)Wrpyf~HEB+|@5+ZK`ey'Xi(TmeIR?m#&'A@%(l@W$s]KDQRWl*&D
EL0PbLHt3N7jp7O]vgjGkE7B2oV[hs/A]?VVy2x$jyNwqdxt81>d@S*<oDcfgDRC9%^sUm0AMF_~[t#c5O|V[eC:y9XP1'6yopm<
[|X9!G~]f!de9hWWx&m4r[p+yA^=NdrI._OQ%;gl^3hrI[)sAr4I7;>a<2WX2~Ul<(4*UG50;^)gM]UPZkn!KS|>@Pa]MNWv(f'C
,2`H~J1FSH[i2u#Hq(t|0Z/hY%20[8KA<4W*XWm8@dE<cm|N*P%6XUxZ~VNfM@7S<s_5D.n*Opb[6<ALO5woM&sI9=iUevmCqSLb
XcS/;~@H$M$i=K)JQKOzMw7kg4!WElei~~KNV+^@(l<F+.`>go9|<i%26Ki(c<2wbB@RQ4oUrCVs.f4b:6In65(HWnqul^Hu)'wM
l/^Phv#p.8__c*q_fL,!^|$zXg|KBknD]1,a9Z*ZxyFy9AunQD:Kr1zX^,6pjonVq?sHwK!ANReyua!;b%BJQ@W''>W0hvV.`Tmm
%WBRyZ!TLfTE2JP~QF:1~A|bIo9#`X`R)(.`mwG0_a<BuO[SjF`fvkl)0HgWc$kR0Z.03.IP<TPR3lK2rT+lG%Zuli*vPhh:yQ)c
te|(8jL5^LCzMX*vjDFo?:%c7U=S~6v!ky`QP6?BD7>|j_rZ7'l|R9v)ldHeBVf<QF'xA_KJ:J=bLEBs'bf<#c~N#paV=;<$j_v`
Y0aB$mrX==fH?EmKguAD@c`S0f,J@Qs0oe6ys1MYk/I;cb7XS]t%Sm>L[aANiKAl#A`FT1t]mI;G]>=)spWg*4~2Xb2Z'c;LjkHc
|G@LWpBByKch%mh;.qcTb2X+uMFigqo^<&wqL:n%YldJ|8vuBY9]t7rToU3|WW&lt9@>Sn@IgT3Z!p./i/@vhG9xaPGipVG!>sUD
(es^cy,A3$LUH)&UvkmNV]|)xZc9.ehT|oW#<$U0vcN~7gJlPqC1!o>^awb*p.i:^buuRLFg@@tP%[%jdl'x#!rP_&>)0eMv1dRg
NN%83K$~<wJ@cB]#n,^G%o$3R!,W65E>z':_dByH]w@a7*17g^%bA,8Y0%1Za3S5I5sw47O4/M%:s?_)&y/$Ke+g>Vs`&&8BpkZQ
_OkVfwF~/+h%wa+,d(zA1LX%F|)w#sVhkV5tgkVYKWFy?Ae@SR+c~j]zm^Xi>H',2]SSsvXyI#$gYfx^Gq85T7+X#<Q,k:W)(4+=
vI/b_U%Y:WRc@]]Os@'|%x%#_&LKR;/`qrxE]=1J;Yyt.J8+ThS]%+JRlkxRIfSkC5a`Fl)6xQqZ2@@==F^HX*)tkZPrV=BZ_R01
oyw$N&/q6[[mBOQ?lqOmsnV%PJOFJ%d<BFHf7pfe2bx)XqPuhk288Bdo<ga?f8^H*z$qv9ZzNaVO:HrcD0)#)b;sFrpY3G'/[A:o
)(My)LB&Q8Z>]>z[7e5zm$.3;d!EseVm|L4rs_KBLT!0XLg!DBl.sv5tqE;|'Vvi|(QdB;g`:|/MDQKaGcLa03tX.KVZxLQ#x@1s
W:N<4tqBXYh8y0]Ly%LWALss.$bFSxHElzAgY?!tO+7[4V!MMAQB_K;xp!!2V0:tH_Flj==uu@|mD)*u_5vIzY>8AUc97[d)D?pv
?8_UL1b`bq5?xASYn4byCB/=+6XZw$Rc<G~=d`[VE6!1^o;~i3u[JGMC6]V_0v%2'I5(yv=zV1Z7UBPq_uJf2/z]2`o~ts]g[8`~
EAi52L,)Hcjj)KQN:cuWZL+kNDgwqOrlb*#IBcpcr%LSkvOG:KT7r%6KbZ`3ERDBoM>fS2D&^U_KS7lH$SlTA$l$VXL<a5VDh^Wp
`a#0DE=4k,qbH[kN:k'r4r2:hT.B*?R0rhQHR@LO[c/'b?[+'W.=l7UHY=T9pGl&pm|6N7F;mU*DGh+?nnN4l10TT8yEdnn'J~&|
~JtD47X/(L9x5324dx4)sI8|7>P[evqgO:h)z.3jyflK`bFuo?5de?1@<n$nyCN$QDDOLFK*AFEYk4E*1|PK_UVB[#AT;;%0hL6H
9>IpI;Yw%gt>m?yKll.eZZ<$A)Tk1kGh+m$?ajc`&ONT<xK?~xvo=azA54YsTt].Yc#8lk^Y=0SB0(7?%:2`iYlb7NM2#&1Y)`DJ
|Um1Q>vdS/gtEv<ZEE?Y<q:IvN!=w|'5gd)yU1QF.#ziP1b_a|f#@fUNmz7IQo_]0mggqLeN&F>FCx&#%E6Skf0^dXY1aEZECwA
$#Letq$4o(xdq9flHUeha2t><XRiM&+LyPPnKQC;G'K&j[MH1Fx:OSl&@h=<(>N3N]ME1#iuz#y'l]jH$9V3sx3C0%vL@(9QN|g/
CfJX1;#jk87aZ3i.sm^C!bk.1MGOHl,xbc9iQpTLeb/B1+xC#^#C.B'O]=COBV>V6/;3$IqQ:acRyO]c[HI#v0?XQD</ZL0.0;Q$
!*k@m+elFm5mVg7.<qJ>W'_IMZFns>5$9H1QhG<$)_xgEz)'2<'OflJGOEs+SG9R*%OT'Ic[:)1n#/v%k7pwyubx$m='04O^L)zl
+[Q:ok7QMtPb?0THHUBQ83U~UjEccSUR~93y]403J+FqhY0<>Cc^:h7$<_jQmSh0P7fV(;:!:6%!iMfma<sHocQ@W.utU~~1VKD!
Cxz;fDg~06Sp^3!N%rLWn2j1vld0Nqqayd`'^RqZ/X<%A*=~/hAz|ENlp&i:F8RYMiY2isCKIcw6)tA$5P8oksi5I5nQd:Up?(A^
>Mf+iXNaBK%tuSK``:;/(J)ah0GG53:^2S928A2W5F+MF<S*f9HIKGtWxq@wRjZD0SPpe=@>!YOp(No.Am=jjyTr/nAS;ffh'x|1
3X;%*kTt@^Zld!D!HVI@h|d91qpv<5,Ntu/6kw*aCXG6fto!%+ziJnk|::Z$W;2.K]=yfBX:.uf)@V+Vg<Y&,,>AlC19h7_)]T]~
PEO?JgbsE)|o['cUP$Ex=h!(=o_6yt(?t2j8(UN6NSr.:t_9+@tEg#PeSuD9S~5~kC>]|;'I/qH=XGzoQ^ZhH#XMOWl1tPzTAk<X
UtkndpHr]h+&ov5uaBXH7#`u/fq(RG6ubu_R6bwD7[F0QY7NfbUb:pfb/F'!?;(D?I+oULBX35S6sx?)0!MePp,+@(#JdMyDlX|M
YqPKP|A[R+<A7k_,78,4yrKtHMT$K(||T~?orS,:_eVsbRHh:7g6[cHdbQviOTyLn%7i7=G:D&x]1Ca`j_N)D/52GaC<tm7:UmZo
N;muh5O];aa6J]<vem'Un328L)h[da]$0uJ1$Tyvnj@k>Uq%(<9RgbqYV$PG0hGlBG.B_4fYj&#S|Mzl'O4WM4a|sb?NYA%eZ*cp
uic[I7*pWGu@mLOpIv3$%~i|16W_g<6hVRSX#[=nujk/yU8b~OUVTbopYM8!!,bb[R2,k'ZNWV`W27ZiXlNhxsxu`Q!a>#).9<(L
Gt^CS+13`rW<(I3aqqLr[nHFlm'n?huh<gcmXPB!]c'j0+PW:wdsNZxw'mGi3a.MSGj4PlRteP@4KHkcy0wj0sQuO:W'2&3hzyv1
zuYe;TZ@*&d)ZL9th*m7iVQ(7W_GrWA(WPNXJZL&x<tvk/)q4Z=~;7%NBTG7e+BV~S/_UuQR.J7r<idOq~$]AsU]ekxZuJTVF^]H
sRrV~jnyPi^oI@X>qS:l^49i!yXbzY;7eT!zb%fEIq`Zex&.2W@Ih,*C]7NJReIPO/]zr3eKNLLc]f#aw83._eO'3c:Ec|[_`WW0
ljP]hl;ciY^/y6p&|KhX=UdR4F+Y~n^PZZBp`Xni#2rg]Yt.Jo.>EeT^^C[AFh_A(7`Nq<c!E)XfkUGzE6/`GyTxHXA,HyoOGVa@
`C,tTkOQwDZAtI[^+v8/&cT:gl>36`X8|'iy5U|&hGQ=I!Xt`<#E/MI<W96EVMZ1j5lt3OeS<soinjkXB@Kz2mp6|w|D<%[ZZwSE
d9XJr<OG#zA.$jThl(1O._`G4;^V,0O$@;YcREMSybP^*.tFm7&/!DoaVdvLIhK5nCk4i>7C_Eg0$P5~aBY7pEp~9D`Svn:7WYj(
ct6tTAn'D6~+[$Yf&<([eC?tH+4BwgEfm59SEIr7LuHHW,YUIM^nw6Px1OS*itduN#1GrE=dJ;AmG;af:~b+>T%~pVqyAyjGrtw$
7L<7*WF8OngU]nq1QY*h2,e![scc]SL0C0?X/>7$)DD*P&zL#UFY1%Ehz6J_s0M,_9Wh%GyhrqX@T[.x4B*,E@Ju&<nLwE_:Jwud
rGW]53#_8HNv):'n>)/3%;n^Dx_%*[V)#?vJ;a5BPb#ZOAP**wbZE/8aYUkSCfwYlCmAE`hoG/o.T0lL+$W3z*QQ76%Y8fyFI='
U#'L/X0d8QP%$q@+e8?m&~~)~vxQ7+Di!yXGbiw*RAvx[y4ty6Shr$&ro3?mA,:aol8oAj(Kz>[7I|#L.4)w^w/+@W%p$%J@&uba
kHS)(yW&Oey(lh8zx[@`MSY:;DD6uG8t9?'!F#G!Tj:sj`:SzCIseozlu[WE!uanB*KaKezKGLuYs8OU8FyYN0P|Mu6Dcg^Xc]F7
=P[`!E(Xy6f>):/j2pXawWWehwRUEoy]$51$KUXqD1n#Zr.tD!#W<Rdk0~j^_AWSM3O=P>|qY&u=,g8I]O@dkZXlE/w;k5<Y%#61
imOA~:4Kjove8:(wel<@dfFj'/bQF,$T5R76aZWd6;Yc/TA&@Rik[f67CHc2NZ<Y;EVFyO@rLyntpf;%lSjvFgf!'TnN|>*2<;Q3
S`h:pc55CgvaX#&)=hiz]h?0W+7w:[t7&%b%l|Xme_WcnI_xu`R1'oZLRlQqiGky1FuVTf.sHVAR@zZ~(y<++Ka@x/)xA=(8&573
*g[%p'ry.`TYL|>@jwnp<TkeNR1:2QAfn8;:Y8gAvgNOzGJiO]V+!~fcLCI<_TV9kS`k?$AAH~@Kjs6q4rjxQz>q=t'w`%2bAgmZ
[Md]8v]btR>T$nctp!|POQeH+V*T5r4soJ$v/*mwi|J'[%lY^[8i]7xiUn<>;H&SPk+Lv!2xeD^..Nb(]:?kU4.y;kDN7!+Jk[E
<#lwvYlB6k<63RgTa+gFb^v]W/FCuP9MijUidmYuYqK]<5ME&zs]1!J,e^!!*BYT7'aO0gq4_(Zd%|Skv>*~r~E5VDBlcf*$8pYs
ADlkuiy7bU%']!?rcYS&.ZgLRJ.0C^e#%k<6KEp)G240UH7wibPd3T&9f`Bnf[~9oiLX#Zdq+r$5g2D)*S[iSLKSisISPk@gjSEC
1s(diLGC.5pF`6DY=,'1bQa3y*Hi>YC.OC,N&u[X8*;`HqvAahEfHh;U7]>]|;YF!Y^07F2QUp7JH'L#FX.bqU0uK&~f|AkevZ8_
C'Xc#yH$`vVsi1/M:klavXHzI2~=F^+eSxNksC]y808H78%$D.@.rXD#]orJV5$(dDjv4>ug*nfs_M'kCNJ]6~<!m)BzSh5W/=h2
*mzrkcWES`bs;7<C$<M>7YNWZ/%S&d]C>=q>.Li]#oI2+Q)<9$@#oop|9(4KEw1UHf^,R)B8xysPANsc|#zIr)/R;oQO'+:9`Hzo
3zStp>/EX~5I*2FT>.KWgWTuj1@QLnI:;@MyK0u0Ku:)+EBF4:jcndxBk[)Xe9TD3BhXN5ZH_rwN#&&bT(_Q!!R&m_%|hwoacP_c
UjDl:fc]$DdF|Qi*GG`0r:MMl&0A9xAK[m>IE_,&[C,$fH%@$Yi[v(=Xtp|Wbx!],#tV!L>Ku&6wmb?`?+C|M4z~!1>~HY#L7#Ft
mWG+'.vbsYD0,?_s^~lF2|Ef;V.aYM(.9c]X.1gIo@E=;+HEN_xO~tGzwA.>[?W#3~[mGupv<>1oaG6u)vU;u)LH`bPgQb)s(MkC
lG<@^_pBkb<FUs=D1Wd'i)#YrNU^H1B_OO:XduQT<)yx';[MB@sb[qF%;3Jg$M7&B12jyl:Nz|[bACU%H3=dM81$8m&UIK7S2kAO
2ln(N#@jAjbL0o_5z)AJsA<[U4h&]Is>e;A[<Oa6a/=EHf[cEWL<XLOKq/Jojmgb&~W|$#?rQid3i2A]NVayA(Rsq&%HxAeV3D|;
3m[4&14lXcU$AgW(ZNY:h!!U48Wy?L3=7NTQ!,`h%?hlZ`Z>y8&48dI.,',%d(dMn|*PTr<?2cQTEQ+;8WYU0qm@EPNv4bv9'tzP
q|szPIHVkzuE>O3oIzBjEj>0UQr]_NM3ep^|1jFIc#I?^rc=FlD>'Q<oWPj>Gb.nljAorw)90]iG)ox!=BVx[?a)xqUgwl.C<F/P
f);+W'A[sI*n7U'ddS6JRnTE0H_NWTx~iER#u?727?mA'O<0HK3Gi.AG+,>>RBB^SK!HF&1w0UO#rGf$2m+w$t6@9+J2qicndD*o
m?`.7%o5t`f"

end SourceTidy.Text
